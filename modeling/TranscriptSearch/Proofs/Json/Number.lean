import TranscriptSearch.Json.Token
import TranscriptSearch.Json.Writer
import TranscriptSearch.Proofs.Number.Decimal

/-!
# Json — the texts of numbers

* `IsNumber`: a sign or none, digits, and perhaps a fraction and an exponent.
* `isNumber_decimal`: the digits of a natural number are a number.
* `isNumber_writeDecimal`, `isNumber_writeBinary64`: so is every decimal as it is written, with
  an exponent or without.
-/

namespace TranscriptSearch.Json

open Number

namespace NumberPart

/-- The part of a number that is reached after some characters. -/
def run? : NumberPart → Text → Option NumberPart
  | p, []     => some p
  | p, c :: t => (p.next? c).bind (run? · t)

theorem run?_append (p : NumberPart) (t u : Text) :
    p.run? (t ++ u) = (p.run? t).bind (run? · u) := by
  induction t generalizing p with
  | nil => rfl
  | cons c t ih =>
      rw [List.cons_append, run?, run?]
      cases p.next? c with
      | none => rfl
      | some q => exact ih q

/-- Where a digit leads. -/
theorem next?_digit {c : Char} (h : isDigit c = true) :
    whole.next? c = some .whole ∧ point.next? c = some .fraction ∧
      fraction.next? c = some .fraction ∧ exponentSign.next? c = some .exponent ∧
      exponent.next? c = some .exponent := by
  simp [next?, h]

theorem run?_digits {p q : NumberPart} (enter : ∀ {c}, isDigit c = true → p.next? c = some q)
    (stay : ∀ {c}, isDigit c = true → q.next? c = some q) {t : Text} (hne : t ≠ [])
    (h : t.all isDigit = true) : p.run? t = some q := by
  induction t generalizing p with
  | nil => exact absurd rfl hne
  | cons c t ih =>
      rw [List.all_cons, Bool.and_eq_true] at h
      rw [run?, enter h.1]
      cases t with
      | nil => rfl
      | cons d t => exact ih (p := q) stay (List.cons_ne_nil d t) h.2

/-- More digits after the first ones. -/
theorem whole_run? {t : Text} (h : t.all isDigit = true) : whole.run? t = some .whole := by
  cases t with
  | nil => rfl
  | cons c t =>
      exact run?_digits (fun h => (next?_digit h).1) (fun h => (next?_digit h).1)
        (List.cons_ne_nil c t) h

/-- Digits after the point. -/
theorem point_run? {t : Text} (hne : t ≠ []) (h : t.all isDigit = true) :
    point.run? t = some .fraction :=
  run?_digits (fun h => (next?_digit h).2.1) (fun h => (next?_digit h).2.2.1) hne h

/-- Digits after the sign of an exponent. -/
theorem exponentSign_run? {t : Text} (hne : t ≠ []) (h : t.all isDigit = true) :
    exponentSign.run? t = some .exponent :=
  run?_digits (fun h => (next?_digit h).2.2.2.1) (fun h => (next?_digit h).2.2.2.2) hne h

/-- A first digit. -/
theorem sign_next? {c : Char} (h : isDigit c = true) :
    sign.next? c = some (if c = '0' then .leadingZero else .whole) := by
  simp only [next?, h, if_true]
  split <;> rfl

/-- The part of the digits before a point. -/
def IsWhole (p : NumberPart) : Prop := p = .leadingZero ∨ p = .whole

theorem isWhole_first (c : Char) : IsWhole (if c = '0' then .leadingZero else .whole) := by
  split
  · exact .inl rfl
  · exact .inr rfl

theorem IsWhole.next?_point {p : NumberPart} (h : p.IsWhole) : p.next? '.' = some .point := by
  rcases h with rfl | rfl <;> rfl

theorem IsWhole.next?_exponent {p : NumberPart} (h : p.IsWhole) :
    p.next? 'e' = some .exponentMark := by
  rcases h with rfl | rfl <;> rfl

end NumberPart

open NumberPart

/-- The text of a number without a sign. -/
def IsUnsigned (t : Text) : Prop := ∃ p, sign.run? t = some p ∧ p.mayEnd = true

/-- The text of a number. -/
def IsNumber (t : Text) : Prop := IsUnsigned t ∨ ∃ u, t = '-' :: u ∧ IsUnsigned u

/-! ### Natural numbers -/

/-- Digits of which the first one is not zero. -/
theorem sign_run?_cons {c : Char} {t : Text} (hc : isDigit c = true) (hzero : c ≠ '0')
    (ht : t.all isDigit = true) : sign.run? (c :: t) = some .whole := by
  rw [run?, sign_next? hc, if_neg hzero]
  exact whole_run? ht

theorem sign_run?_decimal {n : Nat} (h : n ≠ 0) : sign.run? (decimal n) = some .whole := by
  obtain ⟨c, t, hc, hdigit, hzero⟩ := decimal_eq_cons n
  have hall := all_isDigit_decimal n
  rw [hc, List.all_cons, Bool.and_eq_true] at hall
  rw [hc]
  exact sign_run?_cons hdigit (fun e => h (hzero e)) hall.2

/-- **The digits of a natural number are a number.** -/
theorem isNumber_decimal (n : Nat) : IsNumber (decimal n) := by
  by_cases h : n = 0
  · subst h
    exact .inl ⟨.leadingZero, rfl, rfl⟩
  · exact .inl ⟨.whole, sign_run?_decimal h, rfl⟩

/-! ### Decimals -/

/-- Digits before the point and digits after it. -/
theorem sign_run?_point {p : NumberPart} {s t : Text} (hp : p.IsWhole) (hs : sign.run? s = some p)
    (hne : t ≠ []) (ht : t.all isDigit = true) : sign.run? (s ++ ['.'] ++ t) = some .fraction := by
  rw [List.append_assoc, run?_append, hs, Option.bind_some, List.singleton_append, run?,
    hp.next?_point]
  exact point_run? hne ht

/-- A decimal without an exponent, whole. -/
theorem positional_whole {d : DecimalForm} (h : 0 ≤ d.exponent) :
    ∃ p, IsWhole p ∧ sign.run? d.positional = some p := by
  rw [DecimalForm.positional, if_pos h]
  split
  · exact ⟨.leadingZero, .inl rfl, rfl⟩
  · next hne =>
      refine ⟨.whole, .inr rfl, ?_⟩
      rw [run?_append, sign_run?_decimal hne, Option.bind_some]
      exact whole_run? (List.all_replicate.trans (by simp [isDigit]))

/-- A decimal without an exponent, with places after the point. -/
theorem positional_places {d : DecimalForm} (h : ¬ 0 ≤ d.exponent) :
    sign.run? d.positional = some .fraction := by
  rw [DecimalForm.positional, if_neg h]
  obtain ⟨c, rest, hc, hdigit, hzero⟩ := decimal_eq_cons d.digits
  have hall := all_isDigit_decimal d.digits
  have hplaces : 0 < (-d.exponent).toNat := by omega
  generalize (-d.exponent).toNat = places at hplaces
  have hdigits : (List.replicate (places + 1 - (decimal d.digits).length) '0' ++
      decimal d.digits).all isDigit = true := by
    rw [List.all_append, hall, List.all_replicate]
    simp [isDigit]
  refine sign_run?_point (p := if places < (decimal d.digits).length then .whole else .leadingZero)
    (by split <;> simp [IsWhole]) ?_ ?_ ?_
  · split
    next hlong =>
      -- no zeros are put in front, and the digits are not those of zero
      have hne : c ≠ '0' := fun e => by
        rw [hzero e] at hlong
        simp at hlong
        omega
      rw [show places + 1 - (decimal d.digits).length = 0 by omega, List.replicate_zero,
        List.nil_append, hc]
      rw [hc, List.length_cons] at hlong
      rw [List.length_cons, Nat.sub_add_comm (by omega), List.take_succ_cons]
      refine sign_run?_cons hdigit hne ?_
      rw [hc, List.all_cons, Bool.and_eq_true] at hall
      exact List.all_eq_true.2 fun x hx => List.all_eq_true.1 hall.2 x (List.mem_of_mem_take hx)
    next hshort =>
      -- zeros are put in front, and one of them stands before the point
      have hlen :
          places + 1 - (decimal d.digits).length + (decimal d.digits).length - places = 1 := by
        omega
      obtain ⟨k, hk⟩ : ∃ k, places + 1 - (decimal d.digits).length = k + 1 :=
        Nat.exists_eq_add_one.2 (by omega)
      rw [List.length_append, List.length_replicate, hlen, hk]
      rfl
  · rw [ne_eq, List.drop_eq_nil_iff, List.length_append, List.length_replicate]
    omega
  · exact List.all_eq_true.2 fun x hx => List.all_eq_true.1 hdigits x (List.mem_of_mem_drop hx)

/-- A decimal with an exponent. -/
theorem sign_run?_exponent {p : NumberPart} {s : Text} (hs : sign.run? s = some p)
    (hp : p.next? 'e' = some .exponentMark) (isBelow : Prop) [Decidable isBelow] (n : Nat) :
    sign.run? (s ++ ['e', if isBelow then '-' else '+'] ++ decimal n) = some .exponent := by
  have hsign : exponentMark.next? (if isBelow then '-' else '+') = some .exponentSign := by
    split <;> rfl
  rw [List.append_assoc, run?_append, hs, Option.bind_some, run?_append, run?, hp, Option.bind_some,
    run?, hsign]
  exact exponentSign_run? (decimal_ne_nil n) (all_isDigit_decimal n)

/-- **Every decimal is written as a number.** -/
theorem isUnsigned_writeDecimal (d : DecimalForm) : IsUnsigned (writeDecimal d) := by
  rw [writeDecimal]
  split
  · split
    next h =>
      obtain ⟨p, hp, hrun⟩ := positional_whole h
      refine ⟨.fraction, ?_, rfl⟩
      have := sign_run?_point hp hrun (t := ['0']) (List.cons_ne_nil _ _) rfl
      rwa [List.append_assoc] at this
    next h =>
      rw [List.append_nil]
      exact ⟨.fraction, positional_places h, rfl⟩
  -- before an exponent the point stands after the first digit
  · obtain ⟨c, rest, hc, hdigit, -⟩ := decimal_eq_cons d.digits
    have hall := all_isDigit_decimal d.digits
    rw [hc, List.all_cons, Bool.and_eq_true] at hall
    have hfirst : sign.run? [c] = some (if c = '0' then .leadingZero else .whole) := by
      rw [run?, sign_next? hdigit]
      rfl
    have hwhole := isWhole_first c
    rw [hc]
    refine ⟨.exponent, ?_, rfl⟩
    cases rest with
    | nil => exact sign_run?_exponent hfirst hwhole.next?_exponent _ _
    | cons d rest =>
        rw [if_neg (by simp)]
        refine sign_run?_exponent (p := .fraction) ?_ rfl _ _
        rw [← List.append_assoc]
        exact sign_run?_point hwhole hfirst (List.cons_ne_nil d rest) hall.2

/-- **So is every finite number.** -/
theorem isNumber_writeBinary64 (x : Binary64) : IsNumber (writeBinary64 x) := by
  rw [writeBinary64]
  split
  · exact .inr ⟨_, rfl, isUnsigned_writeDecimal _⟩
  · exact .inl (isUnsigned_writeDecimal _)

end TranscriptSearch.Json
