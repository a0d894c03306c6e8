import Mathlib.Algebra.Group.Nat.Defs
import Mathlib.Data.List.Induction
import TranscriptSearch.Number.Decimal

/-!
# Number — natural numbers written and read

* `digitsValueFrom_eq_add`, `digitsValue_append`: the value of two rows of digits.
* `digits?_decimal`, `natural?_decimal`: the digits of a number read back.
* `decimal_eq_cons`: a number other than zero does not begin with the digit zero.
* `natural?_eq_some_iff`: the texts that are read as a number are its numerals.
* `decimal_digitsValue`: digits without a needless zero are the digits of their value.
-/

namespace TranscriptSearch.Number

/-! ### The digits of a number -/

theorem isDigit_eq (c : Char) : isDigit c = c.isDigit := rfl

@[simp] theorem decimal_zero : decimal 0 = ['0'] := rfl

@[simp] theorem decimal_ne_nil (n : Nat) : decimal n ≠ [] := Nat.toDigits_ne_nil

theorem isDigit_of_mem_decimal {n : Nat} {c : Char} (h : c ∈ decimal n) : isDigit c = true := by
  rw [isDigit_eq]
  exact Nat.isDigit_of_mem_toDigits (by decide) (by decide) h

theorem all_isDigit_decimal (n : Nat) : (decimal n).all isDigit = true :=
  List.all_eq_true.2 fun _ h => isDigit_of_mem_decimal h

/-- **The first digit.**  Only zero begins with the digit zero. -/
theorem decimal_eq_cons (n : Nat) :
    ∃ c rest, decimal n = c :: rest ∧ isDigit c = true ∧ (c = '0' → n = 0) := by
  induction n using Nat.strongRecOn with
  | ind n ih =>
      by_cases h : n < 10
      · refine ⟨n.digitChar, [], Nat.toDigits_of_lt_base h, ?_, Nat.digitChar_eq_zero.1⟩
        rw [isDigit_eq, Nat.isDigit_digitChar]
        exact decide_eq_true h
      · -- the digits of the tenth part come first
        obtain ⟨c, rest, hc, hdigit, hzero⟩ := ih (n / 10) (by omega)
        refine ⟨c, rest ++ [(n % 10).digitChar], ?_, hdigit, fun e => ?_⟩
        · rw [decimal, Nat.toDigits_of_base_le (by decide) (by omega), ← decimal, hc,
            List.cons_append]
        · have := hzero e
          omega

/-! ### The value of digits -/

theorem digitsValueFrom_eq (acc : Nat) (t : Text) :
    digitsValueFrom acc t = Nat.ofDigitChars 10 t acc := by
  induction t generalizing acc with
  | nil => rfl
  | cons c t ih => exact ih _

theorem digitsValueFrom_cons (acc : Nat) (c : Char) (t : Text) :
    digitsValueFrom acc (c :: t) = digitsValueFrom (10 * acc + digitValue c) t := by
  rw [digitsValueFrom_eq, digitsValueFrom_eq, Nat.ofDigitChars_cons]
  rfl

theorem digitsValueFrom_append (acc : Nat) (t u : Text) :
    digitsValueFrom acc (t ++ u) = digitsValueFrom (digitsValueFrom acc t) u := by
  rw [digitsValueFrom_eq, digitsValueFrom_eq, digitsValueFrom_eq, Nat.ofDigitChars_append]

/-- What was read before stands in front. -/
theorem digitsValueFrom_eq_add (acc : Nat) (t : Text) :
    digitsValueFrom acc t = 10 ^ t.length * acc + digitsValue t := by
  rw [digitsValue, digitsValueFrom_eq, digitsValueFrom_eq, Nat.ofDigitChars_eq_ofDigitChars_zero]

theorem le_digitsValueFrom (acc : Nat) (t : Text) : acc ≤ digitsValueFrom acc t := by
  rw [digitsValueFrom_eq_add]
  exact Nat.le_trans (Nat.le_mul_of_pos_left acc (Nat.pow_pos (Nat.zero_lt_succ 9)))
    (Nat.le_add_right _ _)

theorem digitsValue_append (t u : Text) :
    digitsValue (t ++ u) = 10 ^ u.length * digitsValue t + digitsValue u := by
  rw [digitsValue, digitsValueFrom_append, digitsValueFrom_eq_add]
  rfl

theorem digitsValue_singleton (c : Char) : digitsValue [c] = digitValue c := Nat.zero_add _

theorem digitsValue_replicate_zero (n : Nat) : digitsValue (List.replicate n '0') = 0 := by
  rw [digitsValue, digitsValueFrom_eq, Nat.ofDigitChars_replicate_zero, Nat.mul_zero]

theorem digitValue_le {c : Char} (h : isDigit c = true) : digitValue c ≤ 9 := by
  have : c.toNat ≤ 57 := of_decide_eq_true (Bool.and_eq_true_iff.1 h).2
  rw [digitValue]
  omega

theorem digitsValue_lt {t : Text} (h : t.all isDigit = true) : digitsValue t < 10 ^ t.length := by
  induction t with
  | nil => exact Nat.one_pos
  | cons c t ih =>
      rw [List.all_cons, Bool.and_eq_true] at h
      have rest := ih h.2
      have first := Nat.mul_le_mul_left (10 ^ t.length) (digitValue_le h.1)
      rw [digitsValue, digitsValueFrom_cons, digitsValueFrom_eq_add, Nat.mul_zero, Nat.zero_add,
        List.length_cons, Nat.pow_succ]
      omega

theorem digitsValue_decimal (n : Nat) : digitsValue (decimal n) = n := by
  rw [digitsValue, digitsValueFrom_eq]
  exact Nat.ofDigitChars_toDigits (by decide) (by decide)

/-- **The digits of a number read back.** -/
theorem digits?_decimal {limit n : Nat} (h : n < limit) : digits? limit (decimal n) = some n := by
  rw [digits?, digitsValue_decimal, all_isDigit_decimal, if_pos]
  simp [h]

/-- **They also read back where a plus sign may stand before them.** -/
theorem natural?_decimal {limit n : Nat} (h : n < limit) : natural? limit (decimal n) = some n := by
  obtain ⟨c, rest, hc, hdigit, -⟩ := decimal_eq_cons n
  have hplus : ∀ t, decimal n ≠ '+' :: t := fun t e => by
    rw [hc] at e
    cases e
    exact absurd hdigit (by decide)
  rw [natural?]
  · exact digits?_decimal h
  · exact hplus

/-! ### Numerals -/

section Numerals

variable {limit n : Nat} {t : Text}

/-- A text is a row of digits, leading zeros allowed, with a value. -/
structure IsDigits (t : Text) (n : Nat) : Prop where
  /-- There is a digit. -/
  ne_nil : t ≠ []
  /-- There is nothing else. -/
  digits : ∀ c ∈ t, c.isDigit = true
  /-- The value in base ten. -/
  value : Nat.ofDigitChars 10 t 0 = n

/-- A text writes a number: digits, after at most one plus sign. -/
inductive IsNumeral : Text → Nat → Prop where
  /-- Digits alone. -/
  | bare {t : Text} {n : Nat} : IsDigits t n → IsNumeral t n
  /-- Digits after a plus sign. -/
  | plus {t : Text} {n : Nat} : IsDigits t n → IsNumeral ('+' :: t) n

theorem isDigits_iff : IsDigits t n ↔ t ≠ [] ∧ t.all isDigit = true ∧ digitsValue t = n := by
  rw [digitsValue, digitsValueFrom_eq, List.all_eq_true]
  exact ⟨fun h => ⟨h.ne_nil, h.digits, h.value⟩,
    fun ⟨hne, hdigits, hvalue⟩ => ⟨hne, hdigits, hvalue⟩⟩

theorem isDigits_decimal (n : Nat) : IsDigits (decimal n) n :=
  isDigits_iff.2 ⟨decimal_ne_nil n, all_isDigit_decimal n, digitsValue_decimal n⟩

theorem IsDigits.not_mem {c : Char} (h : IsDigits t n) (hc : c.isDigit = false) :
    c ∉ t := fun hmem => by
  rw [h.digits c hmem] at hc
  cases hc

theorem digits?_eq_some_iff : digits? limit t = some n ↔ IsDigits t n ∧ n < limit := by
  rw [digits?, isDigits_iff]
  split
  next h =>
    simp only [Bool.and_eq_true, Bool.not_eq_true', List.isEmpty_eq_false_iff,
      decide_eq_true_eq] at h
    obtain ⟨⟨hne, hdigits⟩, hlt⟩ := h
    constructor
    · intro e
      cases e
      exact ⟨⟨hne, hdigits, rfl⟩, hlt⟩
    · rintro ⟨⟨-, -, rfl⟩, -⟩
      rfl
  next h =>
    refine iff_of_false (by simp) ?_
    rintro ⟨⟨hne, hdigits, rfl⟩, hlt⟩
    exact h (by simp [hne, hdigits, hlt])

/-- **The texts that are read as a number** are its numerals. -/
theorem natural?_eq_some_iff : natural? limit t = some n ↔ IsNumeral t n ∧ n < limit := by
  rw [natural?.eq_def]
  split
  next rest =>
    rw [digits?_eq_some_iff]
    refine and_congr_left fun _ => ⟨.plus, fun h => ?_⟩
    cases h with
    | bare h => exact absurd (List.mem_cons_self ..) (h.not_mem (c := '+') rfl)
    | plus h => exact h
  next hplus =>
    rw [digits?_eq_some_iff]
    refine and_congr_left fun _ => ⟨.bare, fun h => ?_⟩
    cases h with
    | bare h => exact h
    | plus h => exact absurd rfl (hplus _)

/-- A row of digits has a needless zero: one that stands before other digits. -/
def IsPadded (t : Text) : Prop := ∃ c rest, t = '0' :: c :: rest

theorem not_isPadded_decimal (n : Nat) : ¬IsPadded (decimal n) := by
  rintro ⟨c, rest, h⟩
  obtain ⟨d, more, hd, -, hzero⟩ := decimal_eq_cons n
  rw [h] at hd
  obtain ⟨rfl, -⟩ := List.cons.inj hd
  rw [hzero rfl, decimal_zero] at h
  cases h

/-- A digit is the one that writes its value. -/
theorem digitChar_digitValue {c : Char} (h : isDigit c = true) : (digitValue c).digitChar = c := by
  have table : ∀ n < 58, 48 ≤ n → (n - 48).digitChar.toNat = n := by decide
  rw [isDigit, Bool.and_eq_true, decide_eq_true_eq, decide_eq_true_eq] at h
  exact Char.toNat_inj.1 (table c.toNat (Nat.lt_succ_of_le h.2) h.1)

/-- **Digits without a needless zero** are the digits of their value. -/
theorem decimal_digitsValue (hne : t ≠ []) (hdigits : t.all isDigit = true) (hpad : ¬IsPadded t) :
    decimal (digitsValue t) = t := by
  -- from the last digit, since those before it are the tenth part of the value
  induction t using List.reverseRecOn with
  | nil => exact absurd rfl hne
  | append_singleton t c ih =>
      rw [List.all_append, Bool.and_eq_true, List.all_cons, List.all_nil, Bool.and_true] at hdigits
      obtain ⟨hfront, hlast⟩ := hdigits
      have hten : digitValue c < 10 := Nat.lt_succ_of_le (digitValue_le hlast)
      have one : decimal (digitValue c) = [c] := by
        rw [decimal, Nat.toDigits_of_lt_base hten, digitChar_digitValue hlast]
      cases t with
      | nil => rw [List.nil_append, digitsValue_singleton, one]
      | cons d rest =>
          have front : decimal (digitsValue (d :: rest)) = d :: rest := by
            refine ih (List.cons_ne_nil d rest) hfront ?_
            rintro ⟨e, more, he⟩
            exact hpad ⟨e, more ++ [c], by rw [he]; rfl⟩
          have pos : 0 < digitsValue (d :: rest) := by
            rw [Nat.pos_iff_ne_zero]
            intro hzero
            rw [hzero, decimal_zero] at front
            exact hpad ⟨c, [], by rw [← front]; rfl⟩
          calc decimal (digitsValue (d :: rest ++ [c]))
            _ = decimal (10 * digitsValue (d :: rest) + digitValue c) := by
                rw [digitsValue_append, digitsValue_singleton, List.length_singleton, pow_one]
            _ = decimal (digitsValue (d :: rest)) ++ decimal (digitValue c) :=
                (Nat.toDigits_append_toDigits (by decide) pos hten).symm
            _ = d :: rest ++ [c] := by rw [front, one]

end Numerals

end TranscriptSearch.Number
