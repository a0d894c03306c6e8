import TranscriptSearch.Proofs.Json.Fields
import TranscriptSearch.Proofs.Json.Number
import TranscriptSearch.Proofs.Number.Binary64

/-!
# Json — every finite number can be read again

Digits that are left out make a number smaller, and the two roundings of a reader make it larger by
two parts in `2 ^ 53` at most.  That is too little to make a finite number infinite, except for the
four largest ones, which are read one by one.

* `Scaled.value_ofWritten_writeDecimal_le`: a written decimal is not read as a larger one.
* `Scaled.exists_binary64?`: what is small enough is read.
* `isFinite_of_binary64?`: whatever is read is finite.
* `exists_binary64?_ofBinary64`: every finite number is read.
* `reread`: the number that is read where a number was written.
-/

namespace TranscriptSearch.Json

open Number

namespace Scaled

/-- The value of a natural number and a power of ten. -/
def value (s : Scaled) : ℚ := s.leading * 10 ^ s.exponent

/-! ### Digits that are gathered -/

/-- Digits before the point that fit are all taken. -/
theorem addWhole_eq {s : Scaled} {t : Text} (h : digitsValueFrom s.leading t ≤ largestLeading) :
    s.addWhole t = ⟨digitsValueFrom s.leading t, s.exponent⟩ := by
  induction t generalizing s with
  | nil => rfl
  | cons c t ih =>
      rw [digitsValueFrom_cons] at h ⊢
      rw [addWhole, if_neg (Nat.not_lt.2 ((le_digitsValueFrom _ t).trans h))]
      exact ih h

theorem leading_addWhole_le {s : Scaled} (hs : s.leading ≤ largestLeading) (t : Text) :
    (s.addWhole t).leading ≤ largestLeading := by
  induction t generalizing s with
  | nil => exact hs
  | cons c t ih =>
      rw [addWhole]
      split
      next => exact hs
      next h => exact ih (Nat.not_lt.1 h)

theorem leading_addFraction_le {s : Scaled} (hs : s.leading ≤ largestLeading) (t : Text) :
    (s.addFraction t).leading ≤ largestLeading := by
  induction t generalizing s with
  | nil => exact hs
  | cons c t ih =>
      rw [addFraction]
      split
      next => exact hs
      next h => exact ih (Nat.not_lt.1 h)

theorem leading_ofWritten_le (t : Text) : (ofWritten t).leading ≤ largestLeading :=
  leading_addFraction_le (leading_addWhole_le (Nat.zero_le _) _) _

/-- Digits after the point that are left out make a number smaller. -/
theorem value_le (s : Scaled) (t : Text) :
    s.value ≤ digitsValueFrom s.leading t * 10 ^ (s.exponent - (t.length : ℤ)) := by
  have digits : (10 ^ t.length * s.leading : ℚ) ≤ digitsValueFrom s.leading t := by
    rw [digitsValueFrom_eq_add]
    push_cast
    exact le_add_of_nonneg_right (Nat.cast_nonneg _)
  calc s.value = 10 ^ t.length * s.leading * 10 ^ (s.exponent - (t.length : ℤ)) := by
        rw [value, zpow_sub₀ (by norm_num), zpow_natCast]
        field_simp
    _ ≤ _ := by gcongr

theorem value_addFraction_le (s : Scaled) (t : Text) :
    (s.addFraction t).value ≤ digitsValueFrom s.leading t * 10 ^ (s.exponent - (t.length : ℤ)) := by
  induction t generalizing s with
  | nil => exact s.value_le []
  | cons c t ih =>
      rw [addFraction]
      split
      next => exact s.value_le (c :: t)
      next =>
        refine (ih _).trans (le_of_eq ?_)
        rw [digitsValueFrom_cons, List.length_cons, Nat.cast_succ]
        congr 2
        ring

/-! ### Texts of numbers -/

/-- A row of digits that ends before something else. -/
theorem span_digits {w u : Text} (hw : w.all isDigit = true)
    (hu : ∀ c ∈ u.head?, isDigit c = false) :
    (w ++ u).takeWhile isDigit = w ∧ (w ++ u).dropWhile isDigit = u := by
  rw [List.takeWhile_append_of_pos (List.all_eq_true.1 hw),
    List.dropWhile_append_of_pos (List.all_eq_true.1 hw)]
  cases u with
  | nil => exact ⟨List.append_nil w, rfl⟩
  | cons c u =>
      have hc : isDigit c = false := hu c rfl
      rw [List.takeWhile_cons_of_neg (by simp [hc]), List.dropWhile_cons_of_neg (by simp [hc])]
      exact ⟨List.append_nil w, rfl⟩

variable {w f u : Text}

/-- Digits before the point, and perhaps digits after it. -/
theorem value_gathered_le (hw : w.all isDigit = true) (hshort : w.length ≤ 19) (e : ℤ) :
    value { (addWhole ⟨0, 0⟩ w).addFraction f with
      exponent := ((addWhole ⟨0, 0⟩ w).addFraction f).exponent + e } ≤
        digitsValue (w ++ f) * 10 ^ (e - (f.length : ℤ)) := by
  have fits : digitsValueFrom 0 w ≤ largestLeading := by
    have bound : digitsValue w < 10 ^ w.length := digitsValue_lt hw
    have : 10 ^ w.length ≤ 10 ^ 19 := Nat.pow_le_pow_right (by decide) hshort
    rw [largestLeading, UInt64.size, ← digitsValue]
    omega
  have gathered := value_addFraction_le ⟨digitsValueFrom 0 w, 0⟩ f
  rw [addWhole_eq fits]
  rw [value] at gathered ⊢
  rw [digitsValue, digitsValueFrom_append]
  simp only at gathered ⊢
  rw [zpow_add₀ (by norm_num), ← mul_assoc, sub_eq_add_neg, zpow_add₀ (by norm_num),
    mul_comm (10 ^ e), ← mul_assoc]
  rw [zero_sub] at gathered
  gcongr

theorem value_ofWritten_point_le (hw : w.all isDigit = true) (hshort : w.length ≤ 19)
    (hf : f.all isDigit = true) (hu : ∀ c ∈ u.head?, isDigit c = false) :
    (ofWritten (w ++ '.' :: (f ++ u))).value ≤
      digitsValue (w ++ f) * 10 ^ (writtenExponent (u.drop 1) - (f.length : ℤ)) := by
  have whole := span_digits hw (u := '.' :: (f ++ u)) (by rintro _ ⟨⟩; rfl)
  have fraction := span_digits hf hu
  rw [ofWritten]
  simp only [whole, List.head?_cons, if_true, List.drop_succ_cons, List.drop_zero, fraction]
  exact value_gathered_le hw hshort _

theorem value_ofWritten_le (hw : w.all isDigit = true) (hshort : w.length ≤ 19)
    (hu : ∀ c ∈ u.head?, isDigit c = false ∧ c ≠ '.') :
    (ofWritten (w ++ u)).value ≤ digitsValue w * 10 ^ writtenExponent (u.drop 1) := by
  have whole := span_digits hw (fun c hc => (hu c hc).1)
  have point : u.head? ≠ some '.' := fun h => (hu '.' h).2 rfl
  have gathered := value_gathered_le (f := []) hw hshort (writtenExponent (u.drop 1))
  rw [List.append_nil, List.length_nil, Nat.cast_zero, sub_zero] at gathered
  rw [ofWritten]
  simp only [whole, point, if_false]
  exact gathered

/-! ### Written decimals -/

variable {d : DecimalForm}

/-- A decimal without places. -/
theorem positional_of_nonneg (h : 0 ≤ d.exponent) :
    d.positional.all isDigit = true ∧
      d.positional.length ≤ (decimal d.digits).length + d.exponent.toNat ∧
      digitsValue d.positional = d.digits * 10 ^ d.exponent.toNat := by
  have zeros : ∀ n, (List.replicate n '0').all isDigit = true := fun n =>
    List.all_replicate.trans (by simp [isDigit])
  rw [DecimalForm.positional, if_pos h]
  split
  next hzero =>
    rw [hzero, Nat.zero_mul]
    exact ⟨rfl, Nat.le_add_right 1 _, rfl⟩
  next =>
    rw [List.all_append, all_isDigit_decimal, zeros, List.length_append, List.length_replicate,
      digitsValue_append, digitsValue_replicate_zero, digitsValue_decimal, List.length_replicate]
    exact ⟨rfl, le_rfl, Nat.mul_comm _ _⟩

/-- A decimal with places, cut at the point. -/
theorem positional_of_neg (h : ¬ 0 ≤ d.exponent) :
    ∃ w f, d.positional = w ++ '.' :: f ∧ w.all isDigit = true ∧ f.all isDigit = true ∧
      digitsValue (w ++ f) = d.digits ∧ (f.length : ℤ) = -d.exponent ∧
      (w.length = 1 ∨ w.length + f.length = (decimal d.digits).length) := by
  obtain ⟨places, hplaces, hpos⟩ : ∃ places : ℕ, d.exponent = -places ∧ 0 < places :=
    ⟨(-d.exponent).toNat, by omega, by omega⟩
  have count : (-d.exponent).toNat = places := by omega
  set padded := List.replicate (places + 1 - (decimal d.digits).length) '0' ++ decimal d.digits
    with hpadded
  have digits : padded.all isDigit = true := by
    rw [hpadded, List.all_append, all_isDigit_decimal, List.all_replicate]
    simp [isDigit]
  have length : padded.length = places + 1 - (decimal d.digits).length +
      (decimal d.digits).length := by
    rw [hpadded, List.length_append, List.length_replicate]
  refine ⟨padded.take (padded.length - places), padded.drop (padded.length - places), ?_, ?_, ?_,
    ?_, ?_, ?_⟩
  · rw [DecimalForm.positional, if_neg h]
    simp only [count, ← hpadded, List.append_assoc, List.singleton_append]
  · exact List.all_eq_true.2 fun c hc => List.all_eq_true.1 digits c (List.mem_of_mem_take hc)
  · exact List.all_eq_true.2 fun c hc => List.all_eq_true.1 digits c (List.mem_of_mem_drop hc)
  · rw [List.take_append_drop, hpadded, digitsValue_append, digitsValue_replicate_zero,
      digitsValue_decimal, Nat.mul_zero, Nat.zero_add]
  · rw [List.length_drop, hplaces]
    omega
  · rw [List.length_take, List.length_drop]
    omega

/-- The written exponent of a number with one digit before the point. -/
theorem writtenExponent_signed (e : ℤ) :
    writtenExponent ((if e < 0 then '-' else '+') :: decimal e.natAbs) = e := by
  split
  next h =>
    rw [writtenExponent, digitsValue_decimal]
    omega
  next h =>
    rw [writtenExponent, digitsValue_decimal]
    omega

/-- A decimal that is written without an exponent is not read as a larger one. -/
theorem value_ofWritten_positional_le
    (hfirst : ((decimal d.digits).length : ℤ) + d.exponent - 1 ≤ 15) :
    (ofWritten (d.positional ++ if 0 ≤ d.exponent then ['.', '0'] else [])).value ≤ d.value := by
  rw [DecimalForm.value]
  split
  next h =>
    obtain ⟨hw, hlen, hvalue⟩ := positional_of_nonneg h
    refine (value_ofWritten_point_le (f := ['0']) (u := []) hw (by omega) rfl (by simp)).trans
      (le_of_eq ?_)
    obtain ⟨n, hn⟩ := Int.eq_ofNat_of_zero_le h
    rw [digitsValue_append, hvalue, hn, show digitsValue ['0'] = 0 from rfl,
      show writtenExponent (List.drop 1 []) = 0 from rfl, List.length_singleton,
      Int.toNat_natCast, zpow_natCast]
    push_cast
    rw [zpow_neg_one, add_zero]
    field_simp
  next h =>
    obtain ⟨w, f, hcut, hw, hf, hvalue, hplaces, hlen⟩ := positional_of_neg h
    have := value_ofWritten_point_le (u := []) hw (by omega) hf (by simp)
    rw [List.append_nil] at this
    rw [List.append_nil, hcut]
    refine this.trans (le_of_eq ?_)
    rw [hvalue, hplaces]
    congr 2
    exact (zero_sub _).trans (neg_neg _)

/-- Nor are digits that are written with an exponent, which is that of the first one. -/
theorem value_ofWritten_exponent_le {c : Char} {rest : Text}
    (hdigits : (c :: rest).all isDigit = true) (first : ℤ) :
    (ofWritten ((c :: rest).take 1 ++
        (if (c :: rest).length = 1 then [] else ['.'] ++ (c :: rest).drop 1) ++
        ['e', if first < 0 then '-' else '+'] ++ decimal first.natAbs)).value ≤
      digitsValue (c :: rest) * 10 ^ (first - (rest.length : ℤ)) := by
  rw [List.all_cons, Bool.and_eq_true] at hdigits
  have one : [c].all isDigit = true := by rw [List.all_cons, hdigits.1]; rfl
  have mark : ∀ x ∈ (['e'] : Text).head?, isDigit x = false ∧ x ≠ '.' := by
    rintro _ ⟨⟩
    exact ⟨rfl, by decide⟩
  set tail : Text := 'e' :: (if first < 0 then '-' else '+') :: decimal first.natAbs with htail
  have signed : writtenExponent (tail.drop 1) = first := writtenExponent_signed first
  cases rest with
  | nil =>
      have := value_ofWritten_le (u := tail) one (by simp) mark
      rw [signed] at this
      rw [List.length_nil, Nat.cast_zero, sub_zero]
      exact this
  | cons c' rest =>
      have := value_ofWritten_point_le (u := tail) one (by simp) hdigits.2
        fun x hx => (mark x hx).1
      rw [signed] at this
      have shape : [c] ++ '.' :: ((c' :: rest) ++ tail) =
          List.take 1 (c :: c' :: rest) ++ (['.'] ++ List.drop 1 (c :: c' :: rest)) ++
            ['e', if first < 0 then '-' else '+'] ++ decimal first.natAbs := by
        simp [htail]
      rw [if_neg (by simp), ← shape]
      exact this

/-- **A written decimal is not read as a larger one.** -/
theorem value_ofWritten_writeDecimal_le (d : DecimalForm) :
    (ofWritten (writeDecimal d)).value ≤ d.value := by
  rw [writeDecimal]
  split
  next hfirst => exact value_ofWritten_positional_le hfirst.2
  next =>
    obtain ⟨c, rest, hc, -, -⟩ := decimal_eq_cons d.digits
    have hall := all_isDigit_decimal d.digits
    have hvalue := digitsValue_decimal d.digits
    rw [hc] at hall hvalue ⊢
    have written := value_ofWritten_exponent_le hall (((c :: rest).length : ℕ) + d.exponent - 1)
    have exponent : (((c :: rest).length : ℕ) + d.exponent - 1 : ℤ) - (rest.length : ℤ) =
        d.exponent := by
      rw [List.length_cons]
      omega
    rwa [hvalue, exponent] at written

/-! ### Reading -/

open Binary64

theorem tooLarge_eq_cast {k : ℕ} (hk : halfScale = k) :
    tooLarge = ((2 ^ 54 - 1) * 2 ^ k : ℕ) := by
  rw [tooLarge, hk, zpow_natCast, Nat.cast_mul, Nat.cast_pow, Nat.cast_sub Nat.one_le_two_pow]
  norm_num

theorem cast_lt_tooLarge {n k : ℕ} (hk : halfScale = k) (h : n < (2 ^ 54 - 1) * 2 ^ k) :
    (n : ℚ) < tooLarge := by
  rw [tooLarge_eq_cast hk]
  exact Nat.cast_lt.2 h

theorem tooLarge_lt_cast {n k : ℕ} (hk : halfScale = k) (h : (2 ^ 54 - 1) * 2 ^ k < n) :
    tooLarge < n := by
  rw [tooLarge_eq_cast hk]
  exact Nat.cast_lt.2 h

/-- The greatest power of ten, the next one and the greatest leading digits beside the least number
that is too large. -/
theorem largest_bounds :
    10 ^ largestPower < (2 ^ 54 - 1) * 2 ^ 970 ∧ (2 ^ 54 - 1) * 2 ^ 970 < 10 ^ (largestPower + 1) ∧
      largestLeading < (2 ^ 54 - 1) * 2 ^ 970 := by
  decide +kernel

/-- No power of ten that a reader multiplies or divides by is too large, but the next one is. -/
theorem pow_ten_lt_tooLarge {e : ℕ} (h : e ≤ largestPower) : ((10 ^ e : ℕ) : ℚ) < tooLarge := by
  have largest : ((10 ^ largestPower : ℕ) : ℚ) < tooLarge :=
    cast_lt_tooLarge (k := 970) rfl largest_bounds.1
  exact lt_of_le_of_lt (Nat.cast_le.2 (Nat.pow_le_pow_right (by decide) h)) largest

theorem tooLarge_lt_pow_ten : tooLarge < ((10 ^ (largestPower + 1) : ℕ) : ℚ) :=
  tooLarge_lt_cast (k := 970) rfl largest_bounds.2.1

theorem cast_leading_lt_tooLarge {n : ℕ} (h : n ≤ largestLeading) : (n : ℚ) < tooLarge := by
  have largest : (largestLeading : ℚ) < tooLarge :=
    cast_lt_tooLarge (k := 970) rfl largest_bounds.2.2
  exact lt_of_le_of_lt (Nat.cast_le.2 h) largest

/-- A small enough number has no power of ten that is too large by itself. -/
theorem le_largestPower {n e : ℕ} (hn : 0 < n)
    (h : (n * 10 ^ e : ℚ) ≤ (2 ^ 53 - 4) * (2 * 2 ^ halfScale)) : e ≤ largestPower := by
  by_contra hpower
  have large : ((10 ^ (largestPower + 1) : ℕ) : ℚ) ≤ n * 10 ^ e := by
    have cast : (n * 10 ^ e : ℚ) = ((n * 10 ^ e : ℕ) : ℚ) := by push_cast; rfl
    rw [cast]
    refine Nat.cast_le.2 ((Nat.pow_le_pow_right (by decide) ?_).trans
      (Nat.le_mul_of_pos_left _ hn))
    omega
  have unit : (0 : ℚ) < 2 ^ halfScale := by positivity
  have := tooLarge_lt_pow_ten.trans_le (large.trans h)
  rw [tooLarge] at this
  linarith

/-- Two roundings of a small enough number do not make it infinite. -/
theorem isFinite_ofNat_times {n e : ℕ} (hn : 0 < n) (hleading : n ≤ largestLeading)
    (h : (n * 10 ^ e : ℚ) ≤ (2 ^ 53 - 4) * (2 * 2 ^ halfScale)) :
    ((Binary64.ofNat n).times (.ofNat (Nat.pow 10 e))).isFinite = true := by
  obtain ⟨-, -, digits⟩ := ofNat_spec hn (cast_leading_lt_tooLarge hleading)
  obtain ⟨-, -, power⟩ := ofNat_spec (Nat.pow_pos (by decide) : 0 < 10 ^ e)
    (pow_ten_lt_tooLarge (le_largestPower hn h))
  have unit : (0 : ℚ) < 2 ^ halfScale := by positivity
  refine isFinite_times ?_
  calc (Binary64.ofNat n).magnitude * (Binary64.ofNat (10 ^ e)).magnitude
      ≤ (n * (1 + 1 / 2 ^ 53)) * ((10 ^ e : ℕ) * (1 + 1 / 2 ^ 53)) :=
        mul_le_mul digits power (magnitude_nonneg _) (by positivity)
    _ = (n * 10 ^ e) * (1 + 1 / 2 ^ 53) ^ 2 := by
        push_cast
        ring
    _ ≤ (2 ^ 53 - 4) * (2 * 2 ^ halfScale) * (1 + 1 / 2 ^ 53) ^ 2 :=
        mul_le_mul_of_nonneg_right h (by positivity)
    _ < tooLarge := by
        rw [tooLarge]
        linarith

/-- **What is small enough is read.** -/
theorem exists_binary64? {s : Scaled} (hleading : s.leading ≤ largestLeading)
    (h : s.value ≤ (2 ^ 53 - 4) * 2 ^ (halfScale + 1)) : ∃ y, s.binary64? = some y := by
  rw [binary64?]
  split
  next => exact ⟨_, rfl⟩
  next hexp =>
  split
  next => exact ⟨_, rfl⟩
  next hzero =>
  obtain ⟨e, he⟩ := Int.eq_ofNat_of_zero_le (Int.not_lt.1 hexp)
  have hpos : 0 < s.leading := by
    refine Nat.pos_of_ne_zero fun e => hzero ?_
    rw [e]
    rfl
  rw [two_zpow_succ, value, he, zpow_natCast] at h
  rw [he]
  simp only [Int.natAbs_natCast]
  rw [if_pos (by exact_mod_cast le_largestPower hpos h),
    if_pos (isFinite_ofNat_times hpos hleading h)]
  exact ⟨_, rfl⟩

/-! ### What is read is finite -/

theorem isFinite_ofNat {n : ℕ} (h : n ≤ largestLeading) : (Binary64.ofNat n).isFinite = true := by
  rcases Nat.eq_zero_or_pos n with rfl | hn
  · rfl
  · exact (ofNat_spec hn (cast_leading_lt_tooLarge h)).1

theorem isFinite_dividedBy_pow {x : Binary64} (hx : x.isFinite = true) {e : ℕ}
    (he : e ≤ largestPower) : (x.dividedBy (.ofNat (Nat.pow 10 e))).isFinite = true :=
  isFinite_dividedBy hx (ofNat_spec (Nat.pow_pos (by decide)) (pow_ten_lt_tooLarge he)).2.1

theorem isFinite_divideByPower {rounds : ℕ} {x : Binary64} (hx : x.isFinite = true) (e : ℕ) :
    (divideByPower rounds x e).isFinite = true := by
  induction rounds generalizing x e with
  | zero =>
      rw [divideByPower]
      rfl
  | succ rounds ih =>
      rw [divideByPower]
      split
      next he => exact isFinite_dividedBy_pow hx he
      split
      next => exact hx
      next => exact ih (isFinite_dividedBy_pow hx le_rfl) _

theorem isFinite_of_binary64? {s : Scaled} (hleading : s.leading ≤ largestLeading) {y : Binary64}
    (h : s.binary64? = some y) : y.isFinite = true := by
  have leading := isFinite_ofNat hleading
  rw [binary64?] at h
  split at h
  next => exact Option.some.inj h ▸ isFinite_divideByPower leading _
  split at h
  next => exact Option.some.inj h ▸ leading
  split at h
  next =>
    simp only at h
    split at h
    next hfinite => exact Option.some.inj h ▸ hfinite
    next => cases h
  next => cases h

end Scaled

open Binary64

theorem isFinite_negate {x : Binary64} (h : x.isFinite = true) : x.negate.isFinite = true := by
  have bound := x.bits.toNat_lt
  rw [isFinite, exponentField, bne_iff_ne] at h
  simp only [Nat.pow_eq] at h
  refine isFinite_ofMagnitude _ ?_
  simp only [Nat.pow_eq, infinityBits]
  omega

theorem isFinite_of_writtenBinary64? {t : Text} {y : Binary64} (h : writtenBinary64? t = some y) :
    y.isFinite = true := by
  rw [writtenBinary64?.eq_def] at h
  split at h
  next =>
    obtain ⟨z, hz, rfl⟩ := Option.map_eq_some_iff.1 h
    exact isFinite_negate (Scaled.isFinite_of_binary64? (Scaled.leading_ofWritten_le _) hz)
  next => exact Scaled.isFinite_of_binary64? (Scaled.leading_ofWritten_le _) h

/-- **Whatever is read is finite.** -/
theorem isFinite_of_binary64? {v : Json} {y : Binary64} (h : v.binary64? = some y) :
    y.isFinite = true := by
  cases v with
  | number t => exact isFinite_of_writtenBinary64? h
  | _ => cases h

/-! ### Every finite number is read -/

/-- The four largest numbers, with either sign. -/
theorem isSome_largest : ∀ (isNegative : Bool) (k : Fin 4),
    ((ofBinary64 (ofMagnitude isNegative (infinityBits - 1 - k))).binary64?).isSome = true := by
  decide +kernel

/-- A finite number is one of the four largest ones, or its digits are small enough. -/
theorem eq_largest_or {x : Binary64} (h : x.isFinite = true) :
    (∃ k : Fin 4, x = ofMagnitude x.isNegative (infinityBits - 1 - k)) ∨
      ((x.significand : ℚ) + 1 / 2) * 2 ^ x.scale ≤ (2 ^ 53 - 4) * 2 ^ (halfScale + 1) := by
  have unit : (0 : ℚ) < 2 ^ halfScale := by positivity
  by_cases top : x.scale = halfScale + 1 ∧ 2 ^ 53 - 4 ≤ x.significand
  · obtain ⟨hscale, hdigits⟩ := top
    have bound := x.bits.toNat_lt
    have fraction := x.fractionField_lt
    have exponent : x.exponentField = 2046 := by
      rw [scale, halfScale] at hscale
      omega
    rw [significand, exponent, if_neg (by decide)] at hdigits
    simp only [Nat.pow_eq] at hdigits
    refine .inl ⟨⟨2 ^ 52 - 1 - x.fractionField, by omega⟩, ?_⟩
    have bits : x.bits.toNat = (ofMagnitude x.isNegative
        (infinityBits - 1 - (2 ^ 52 - 1 - x.fractionField))).bits.toNat := by
      rw [toNat_bits_ofMagnitude _ (by rw [infinityBits, Nat.pow_eq]; omega)]
      rw [exponentField] at exponent
      rw [isNegative, infinityBits, fractionField]
      simp only [Nat.pow_eq, decide_eq_true_eq] at exponent ⊢
      split <;> omega
    exact congrArg Binary64.mk (UInt64.toNat_inj.1 bits)
  · refine .inr ?_
    rw [two_zpow_succ]
    rcases Int.lt_or_eq_of_le (scale_le h) with hlt | heq
    -- below the largest scale any digits are small enough
    · have digits : (x.significand : ℚ) + 1 ≤ 2 ^ 53 := by exact_mod_cast x.significand_lt
      calc ((x.significand : ℚ) + 1 / 2) * 2 ^ x.scale ≤ 2 ^ 53 * 2 ^ halfScale :=
            mul_le_mul (by linarith) (zpow_le_zpow_right₀ one_le_two (Int.lt_add_one_iff.1 hlt))
              (by positivity) (by positivity)
        _ ≤ (2 ^ 53 - 4) * (2 * 2 ^ halfScale) := by linarith
    · have digits : (x.significand : ℚ) + 5 ≤ 2 ^ 53 := by
        have : x.significand + 5 ≤ 2 ^ 53 := by
          have := mt (And.intro heq) top
          omega
        exact_mod_cast this
      rw [heq, two_zpow_succ]
      exact mul_le_mul_of_nonneg_right (by linarith) (by linarith)

/-- **Every finite number is read.** -/
theorem exists_binary64?_ofBinary64 {x : Binary64} (h : x.isFinite = true) :
    ∃ y, (ofBinary64 x).binary64? = some y := by
  obtain ⟨k, hk⟩ | hsmall := eq_largest_or h
  · rw [hk]
    exact Option.isSome_iff_exists.1 (isSome_largest x.isNegative k)
  obtain ⟨y, hy⟩ := Scaled.exists_binary64? (Scaled.leading_ofWritten_le _)
    (((Scaled.value_ofWritten_writeDecimal_le _).trans (value_shortest_le .toEven x)).trans hsmall)
  rw [ofBinary64, if_pos h, binary64?, writeBinary64]
  split
  next => exact ⟨y.negate, by rw [List.singleton_append, writtenBinary64?, hy]; rfl⟩
  next =>
    refine ⟨y, ?_⟩
    rw [List.nil_append, writtenBinary64?]
    · exact hy
    · -- a sign is not the first character of a number without one
      intro t ht
      obtain ⟨p, hp, -⟩ := isUnsigned_writeDecimal (x.shortest .toEven)
      rw [ht] at hp
      cases hp

/-- The number that is read where a number was written. -/
def reread (x : Binary64) : Binary64 := (ofBinary64 x).binary64?.getD x

theorem binary64?_ofBinary64 {x : Binary64} (h : x.isFinite = true) :
    (ofBinary64 x).binary64? = some (reread x) := by
  obtain ⟨y, hy⟩ := exists_binary64?_ofBinary64 h
  rw [reread, hy]
  rfl

theorem isFinite_reread {x : Binary64} (h : x.isFinite = true) : (reread x).isFinite = true :=
  isFinite_of_binary64? (binary64?_ofBinary64 h)

theorem ReadsBack.isFinite {x : Binary64} (h : ReadsBack x) : x.isFinite = true :=
  isFinite_of_binary64? h

theorem ReadsBack.reread_self {x : Binary64} (h : ReadsBack x) : reread x = x := by
  rw [reread, show _ = some x from h]
  rfl

end TranscriptSearch.Json
