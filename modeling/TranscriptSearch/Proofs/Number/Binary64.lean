import Mathlib.Algebra.Order.Field.Power
import Mathlib.Data.Rat.Cast.Order
import Mathlib.Tactic.FieldSimp
import Mathlib.Tactic.Linarith
import Mathlib.Tactic.Positivity
import Mathlib.Tactic.Ring
import TranscriptSearch.Number.Shortest

/-!
# Number — how far rounding goes

Rounding moves a fraction by half a unit of the last place at most.  So a fraction becomes infinity
only from the middle between the largest number and the next power of two on, a natural number grows
by one part in `2 ^ 53` at most, and the shortest digits of a number are hardly above it.

* `Binary64.magnitude`: the magnitude of a finite number as a fraction.
* `Binary64.binaryExponent_spec`: the binary exponent of a fraction.
* `Binary64.isFinite_ofRatio`: what is rounded to a finite number.
* `Binary64.magnitude_ofNat_le`: how much a natural number grows.
* `Binary64.value_shortest_le`: how much is written.
-/

namespace TranscriptSearch.Number

/-! ### Powers -/

theorem pow_toNat_div_pow {b : ℚ} (hb : b ≠ 0) (i : ℤ) :
    b ^ i.toNat / b ^ (-i).toNat = b ^ i := by
  rw [← zpow_natCast, ← zpow_natCast, ← zpow_sub₀ hb]
  congr 1
  omega

/-- The value of a decimal. -/
def DecimalForm.value (d : DecimalForm) : ℚ := d.digits * 10 ^ d.exponent

theorem compareScaled_ne_gt_iff {a n : ℕ} {i j : ℤ} :
    compareScaled a i n j ≠ .gt ↔ (a : ℚ) * 10 ^ i ≤ n * 2 ^ j := by
  rw [compareScaled, Nat.compare_ne_gt, ← pow_toNat_div_pow (by norm_num : (10 : ℚ) ≠ 0),
    ← pow_toNat_div_pow (by norm_num : (2 : ℚ) ≠ 0), ← mul_div_assoc, ← mul_div_assoc,
    div_le_div_iff₀ (by positivity) (by positivity)]
  simp only [Nat.pow_eq]
  exact_mod_cast Iff.rfl

/-! ### Division -/

/-- A quotient is rounded by a half at most. -/
theorem abs_roundedDiv_sub_le (num den : ℕ) (h : 0 < den) :
    |(roundedDiv num den : ℚ) - num / den| ≤ 1 / 2 := by
  have hden : (0 : ℚ) < den := by exact_mod_cast h
  obtain ⟨low, high⟩ : 2 * num ≤ (2 * roundedDiv num den + 1) * den ∧
      2 * roundedDiv num den * den ≤ 2 * num + den := by
    have split := Nat.div_add_mod num den
    have rest := Nat.mod_lt num h
    rw [roundedDiv]
    generalize num / den = q at split ⊢
    generalize num % den = r at split rest ⊢
    have parity : q % 2 = 0 ∨ q % 2 = 1 := Nat.mod_two_eq_zero_or_one q
    subst split
    split
    · constructor <;> nlinarith
    split
    · constructor <;> nlinarith
    · rcases parity with e | e <;> rw [e] <;> constructor <;> nlinarith
  have low : 2 * (num : ℚ) ≤ (2 * roundedDiv num den + 1) * den := by exact_mod_cast low
  have high : 2 * (roundedDiv num den : ℚ) * den ≤ 2 * num + den := by exact_mod_cast high
  rw [abs_le]
  constructor
  · rw [neg_le_sub_iff_le_add, div_le_iff₀ hden]
    linarith
  · rw [sub_le_iff_le_add, ← sub_le_iff_le_add', le_div_iff₀ hden]
    linarith

namespace Binary64

/-! ### Exponents -/

theorem powLe_iff {e : ℤ} {num den : ℕ} :
    powLe e num den = true ↔ (2 : ℚ) ^ e * den ≤ num := by
  rw [powLe, decide_eq_true_iff, ← pow_toNat_div_pow (by norm_num : (2 : ℚ) ≠ 0),
    div_mul_eq_mul_div, div_le_iff₀ (by positivity), mul_comm ((2 : ℚ) ^ _)]
  simp only [Nat.pow_eq]
  exact_mod_cast Iff.rfl

/-- **The binary exponent of a fraction** is the power of two that it reaches. -/
theorem binaryExponent_spec {num den : ℕ} (hn : 0 < num) (hd : 0 < den) :
    (2 : ℚ) ^ binaryExponent num den * den ≤ num ∧
      num < (2 : ℚ) ^ (binaryExponent num den + 1) * den := by
  have logs : ∀ {n : ℕ}, 0 < n →
      (2 : ℚ) ^ (n.log2 : ℤ) ≤ n ∧ (n : ℚ) < 2 ^ ((n.log2 : ℤ) + 1) := by
    intro n hn
    constructor
    · exact_mod_cast Nat.log2_self_le hn.ne'
    · exact_mod_cast Nat.lt_log2_self
  obtain ⟨hn₁, hn₂⟩ := logs hn
  obtain ⟨hd₁, hd₂⟩ := logs hd
  have above : (num : ℚ) < 2 ^ ((num.log2 : ℤ) - den.log2 + 1) * den := by
    calc (num : ℚ) < 2 ^ ((num.log2 : ℤ) + 1) := hn₂
      _ = 2 ^ ((num.log2 : ℤ) - den.log2 + 1) * 2 ^ (den.log2 : ℤ) := by
          rw [← zpow_add₀ two_ne_zero]
          congr 1
          omega
      _ ≤ _ := by gcongr
  have below : (2 : ℚ) ^ ((num.log2 : ℤ) - den.log2 - 1) * den ≤ num := by
    calc (2 : ℚ) ^ ((num.log2 : ℤ) - den.log2 - 1) * den
        ≤ 2 ^ ((num.log2 : ℤ) - den.log2 - 1) * 2 ^ ((den.log2 : ℤ) + 1) := by gcongr
      _ = 2 ^ (num.log2 : ℤ) := by
          rw [← zpow_add₀ two_ne_zero]
          congr 1
          omega
      _ ≤ num := hn₁
  rw [binaryExponent]
  split
  next h => exact ⟨powLe_iff.1 h, above⟩
  next h =>
    rw [powLe_iff, not_le] at h
    rw [Int.sub_add_cancel]
    exact ⟨below, h⟩

/-! ### Fields -/

theorem fractionField_lt (x : Binary64) : x.fractionField < 2 ^ 52 := Nat.mod_lt _ (by decide)

theorem toNat_bits_ofMagnitude (isNegative : Bool) {k : ℕ} (h : k < 2 ^ 63) :
    (ofMagnitude isNegative k).bits.toNat = (if isNegative then 2 ^ 63 else 0) + k := by
  rw [ofMagnitude]
  cases isNegative
  · exact (Nat.mod_eq_of_lt (show k < 2 ^ 64 by omega)).trans (Nat.zero_add k).symm
  · exact Nat.mod_eq_of_lt (show 2 ^ 63 + k < 2 ^ 64 by omega)

theorem exponentField_ofMagnitude (isNegative : Bool) {k : ℕ} (h : k < 2 ^ 63) :
    (ofMagnitude isNegative k).exponentField = k / 2 ^ 52 := by
  rw [exponentField, toNat_bits_ofMagnitude isNegative h]
  simp only [Nat.pow_eq]
  split <;> omega

theorem fractionField_ofMagnitude (isNegative : Bool) {k : ℕ} (h : k < 2 ^ 63) :
    (ofMagnitude isNegative k).fractionField = k % 2 ^ 52 := by
  rw [fractionField, toNat_bits_ofMagnitude isNegative h]
  simp only [Nat.pow_eq]
  split <;> omega

theorem isFinite_ofMagnitude (isNegative : Bool) {k : ℕ} (h : k < infinityBits) :
    (ofMagnitude isNegative k).isFinite = true := by
  rw [infinityBits, Nat.pow_eq] at h
  rw [isFinite, exponentField_ofMagnitude isNegative (by omega), bne_iff_ne]
  omega

/-! ### Magnitudes -/

/-- The magnitude of a finite number. -/
def magnitude (x : Binary64) : ℚ := x.significand * 2 ^ x.scale

theorem magnitude_nonneg (x : Binary64) : 0 ≤ x.magnitude :=
  mul_nonneg (Nat.cast_nonneg _) (zpow_nonneg zero_le_two _)

theorem num_div_den (x : Binary64) : (x.num : ℚ) / x.den = x.magnitude := by
  rw [num, den, magnitude, ← pow_toNat_div_pow two_ne_zero, ← mul_div_assoc]
  simp only [Nat.pow_eq]
  push_cast
  rfl

theorem den_pos (x : Binary64) : 0 < x.den := Nat.pow_pos (by decide)

theorem significand_lt (x : Binary64) : x.significand < 2 ^ 53 := by
  have := x.fractionField_lt
  rw [significand]
  simp only [Nat.pow_eq]
  split <;> omega

/-- The scale of half a unit of the largest numbers. -/
def halfScale : ℤ := 970

theorem scale_le {x : Binary64} (h : x.isFinite = true) : x.scale ≤ halfScale + 1 := by
  have bound : x.exponentField < 2 ^ 11 := Nat.mod_lt _ (by decide)
  rw [isFinite, bne_iff_ne] at h
  rw [scale, halfScale]
  omega

/-- The middle between the largest number and the next power of two. -/
def tooLarge : ℚ := (2 ^ 54 - 1) * 2 ^ halfScale

theorem two_zpow_succ (i : ℤ) : (2 : ℚ) ^ (i + 1) = 2 * 2 ^ i := by
  rw [zpow_add_one₀ two_ne_zero, mul_comm]

theorem magnitude_lt {x : Binary64} (h : x.isFinite = true) : x.magnitude < tooLarge := by
  have significand : (x.significand : ℚ) + 1 ≤ 2 ^ 53 := by exact_mod_cast x.significand_lt
  have unit : (0 : ℚ) < 2 ^ halfScale := by positivity
  calc x.magnitude ≤ (2 ^ 53 - 1) * 2 ^ (halfScale + 1) :=
        mul_le_mul (by linarith) (zpow_le_zpow_right₀ one_le_two (scale_le h)) (by positivity)
          (by norm_num)
    _ < tooLarge := by
        rw [tooLarge, two_zpow_succ]
        linarith

/-! ### Rounding -/

/-- What a fraction comes to on a grid of powers of two. -/
theorem grid_div (num den : ℕ) (q : ℤ) :
    ((num * Nat.pow 2 (-q).toNat : ℕ) : ℚ) / (den * Nat.pow 2 q.toNat : ℕ) =
      num / den / 2 ^ q := by
  rw [← pow_toNat_div_pow two_ne_zero q]
  simp only [Nat.pow_eq]
  push_cast
  rw [div_div_div_eq]

/-- A multiple of a power of two that is smaller than another one by more than a half. -/
theorem roundedDiv_le {num den k : ℕ} {q : ℤ} (hd : 0 < den)
    (h : (num : ℚ) / den < (k + 1 / 2) * 2 ^ q) :
    roundedDiv (num * Nat.pow 2 (-q).toNat) (den * Nat.pow 2 q.toNat) ≤ k := by
  have near := abs_roundedDiv_sub_le (num * Nat.pow 2 (-q).toNat) (den * Nat.pow 2 q.toNat)
    (Nat.mul_pos hd (Nat.pow_pos (by decide)))
  rw [grid_div] at near
  rw [← div_lt_iff₀ (by positivity)] at h
  have := (abs_le.1 near).2
  have : (roundedDiv (num * Nat.pow 2 (-q).toNat) (den * Nat.pow 2 q.toNat) : ℚ) < k + 1 := by
    linarith
  exact Nat.lt_succ_iff.1 (by exact_mod_cast this)

theorem le_roundedDiv {num den k : ℕ} {q : ℤ} (hd : 0 < den)
    (h : (k - 1 / 2) * (2 : ℚ) ^ q < num / den) :
    k ≤ roundedDiv (num * Nat.pow 2 (-q).toNat) (den * Nat.pow 2 q.toNat) := by
  have near := abs_roundedDiv_sub_le (num * Nat.pow 2 (-q).toNat) (den * Nat.pow 2 q.toNat)
    (Nat.mul_pos hd (Nat.pow_pos (by decide)))
  rw [grid_div] at near
  rw [← lt_div_iff₀ (by positivity)] at h
  have := (abs_le.1 near).1
  have : (k : ℚ) < roundedDiv (num * Nat.pow 2 (-q).toNat) (den * Nat.pow 2 q.toNat) + 1 := by
    linarith
  exact Nat.lt_succ_iff.1 (by exact_mod_cast this)

/-- The binary exponent of what is not too large. -/
theorem binaryExponent_lt {e : ℤ} (h : (2 : ℚ) ^ e < tooLarge) : e < halfScale + 54 := by
  refine (zpow_lt_zpow_iff_right₀ (one_lt_two (α := ℚ))).1 (h.trans_le ?_)
  rw [tooLarge, zpow_add₀ two_ne_zero, mul_comm ((2 : ℚ) ^ halfScale)]
  gcongr
  norm_num

/-- **What is rounded to a finite number.** -/
theorem magnitudeOfRatio_lt {num den : ℕ} (hd : 0 < den) (h : (num : ℚ) / den < tooLarge) :
    magnitudeOfRatio num den < infinityBits := by
  rw [magnitudeOfRatio]
  split
  · decide
  next hn =>
  obtain ⟨reach, above⟩ := binaryExponent_spec (Nat.pos_of_ne_zero hn) hd
  have hden : (0 : ℚ) < den := by exact_mod_cast hd
  rw [← le_div_iff₀ hden] at reach
  rw [← div_lt_iff₀ hden] at above
  have unit : (0 : ℚ) < 2 ^ halfScale := by positivity
  have exponent := binaryExponent_lt (reach.trans_lt h)
  simp only
  set q : ℤ := max (binaryExponent num den - 52) (-1074) with hq
  -- the digits have 53 places at most, and one more only below the largest scale
  have places : (num : ℚ) / den < 2 ^ 53 * 2 ^ q := by
    refine above.trans_le ?_
    rw [show ((2 : ℚ) ^ 53) = 2 ^ (53 : ℤ) from rfl, ← zpow_add₀ two_ne_zero]
    exact zpow_le_zpow_right₀ one_le_two (by omega)
  have digits := roundedDiv_le (k := 2 ^ 53) hd (places.trans_le (by
    push_cast
    gcongr
    norm_num))
  have last : q = halfScale + 1 → roundedDiv (num * Nat.pow 2 (-q).toNat)
      (den * Nat.pow 2 q.toNat) ≤ 2 ^ 53 - 1 := fun e => roundedDiv_le hd (h.trans_le (by
    rw [e, tooLarge, two_zpow_succ]
    push_cast
    linarith))
  simp only [Nat.pow_eq, infinityBits, halfScale] at *
  omega

theorem isFinite_ofRatio (isNegative : Bool) {num den : ℕ} (hd : 0 < den)
    (h : (num : ℚ) / den < tooLarge) : (ofRatio isNegative num den).isFinite = true :=
  isFinite_ofMagnitude isNegative (magnitudeOfRatio_lt hd h)

/-- A product that is not too large is finite. -/
theorem isFinite_times {x y : Binary64} (h : x.magnitude * y.magnitude < tooLarge) :
    (x.times y).isFinite = true := by
  refine isFinite_ofRatio false (Nat.mul_pos x.den_pos y.den_pos) ?_
  push_cast
  rwa [mul_div_mul_comm, num_div_den, num_div_den]

/-- A finite number divided by a number that is not below one is finite. -/
theorem isFinite_dividedBy {x y : Binary64} (hx : x.isFinite = true) (hy : 1 ≤ y.magnitude) :
    (x.dividedBy y).isFinite = true := by
  have pos : 0 < y.num := by
    by_contra h
    rw [← num_div_den, Nat.eq_zero_of_not_pos h, Nat.cast_zero, zero_div] at hy
    exact absurd hy (by norm_num)
  refine isFinite_ofRatio false (Nat.mul_pos x.den_pos pos) ?_
  push_cast
  rw [← div_div_div_eq, num_div_den, num_div_den]
  exact (div_le_self x.magnitude_nonneg hy).trans_lt (magnitude_lt hx)

/-! ### Natural numbers -/

/-- The magnitude of digits with 53 places on a grid. -/
theorem magnitude_ofMagnitude {m : ℕ} {q : ℤ} (hm : 2 ^ 52 ≤ m) (hm' : m ≤ 2 ^ 53) (hq : -1074 ≤ q)
    (hq' : q ≤ halfScale + 1) :
    (ofMagnitude false ((q + 1074).toNat * 2 ^ 52 + m)).magnitude = m * 2 ^ q := by
  rw [halfScale] at hq'
  have bound : (q + 1074).toNat * 2 ^ 52 + m < 2 ^ 63 := by omega
  rw [magnitude, significand, scale, exponentField_ofMagnitude false bound,
    fractionField_ofMagnitude false bound]
  simp only [Nat.pow_eq]
  rw [if_neg (by omega)]
  rcases Nat.lt_or_eq_of_le hm' with hlt | rfl
  · rw [show 2 ^ 52 + ((q + 1074).toNat * 2 ^ 52 + m) % 2 ^ 52 = m by omega]
    congr 2
    omega
  -- the carry makes the exponent larger by one
  · rw [show 2 ^ 52 + ((q + 1074).toNat * 2 ^ 52 + 2 ^ 53) % 2 ^ 52 = 2 ^ 52 by omega,
      show ((max (((q + 1074).toNat * 2 ^ 52 + 2 ^ 53) / 2 ^ 52) 1 : ℕ) : ℤ) - 1075 = q + 1 by
        omega, two_zpow_succ]
    push_cast
    ring

/-- A natural number with 53 places on a grid is rounded to one with as many or to a power. -/
theorem roundedDiv_grid {n : ℕ} {q : ℤ} (reach : (2 ^ 52 * 2 ^ q : ℚ) ≤ n)
    (above : (n : ℚ) < 2 * (2 ^ 52 * 2 ^ q)) :
    2 ^ 52 ≤ roundedDiv (n * Nat.pow 2 (-q).toNat) (1 * Nat.pow 2 q.toNat) ∧
      roundedDiv (n * Nat.pow 2 (-q).toNat) (1 * Nat.pow 2 q.toNat) ≤ 2 ^ 53 ∧
      (roundedDiv (n * Nat.pow 2 (-q).toNat) (1 * Nat.pow 2 q.toNat) : ℚ) - n / 2 ^ q ≤ 1 / 2 := by
  refine ⟨le_roundedDiv Nat.one_pos ?_, roundedDiv_le Nat.one_pos ?_, ?_⟩
  · push_cast
    linarith
  · push_cast
    linarith
  · have near := abs_roundedDiv_sub_le (n * Nat.pow 2 (-q).toNat) (1 * Nat.pow 2 q.toNat)
      (Nat.mul_pos Nat.one_pos (Nat.pow_pos (by decide)))
    rw [grid_div, Nat.cast_one, div_one] at near
    exact (abs_le.1 near).2

/-- **What a natural number is rounded to.**  It grows by one part in `2 ^ 53` at most. -/
theorem ofNat_spec {n : ℕ} (hn : 0 < n) (hlt : (n : ℚ) < tooLarge) :
    (ofNat n).isFinite = true ∧ 1 ≤ (ofNat n).magnitude ∧
      (ofNat n).magnitude ≤ n * (1 + 1 / 2 ^ 53) := by
  have finite : (n : ℚ) / (1 : ℕ) < tooLarge := by rwa [Nat.cast_one, div_one]
  have unbounded := magnitudeOfRatio_lt Nat.one_pos finite
  obtain ⟨reach, above⟩ := binaryExponent_spec hn Nat.one_pos
  rw [Nat.cast_one, mul_one] at reach above
  have whole : (1 : ℚ) ≤ n := by exact_mod_cast hn
  have low : 0 < binaryExponent n 1 + 1 :=
    (zpow_lt_zpow_iff_right₀ (one_lt_two (α := ℚ))).1 (whole.trans_lt above)
  have high := binaryExponent_lt (reach.trans_lt hlt)
  obtain ⟨q, hq⟩ : ∃ q, binaryExponent n 1 = q + 52 := ⟨_, (Int.sub_add_cancel _ 52).symm⟩
  have unit : (2 : ℚ) ^ binaryExponent n 1 = 2 ^ 52 * 2 ^ q := by
    rw [hq, zpow_add₀ two_ne_zero, mul_comm]
    rfl
  rw [two_zpow_succ, unit] at above
  rw [unit] at reach
  have pos : (0 : ℚ) < 2 ^ q := by positivity
  obtain ⟨least, most, near⟩ := roundedDiv_grid reach above
  set m := roundedDiv (n * Nat.pow 2 (-q).toNat) (1 * Nat.pow 2 q.toNat) with hm
  have rounded : magnitudeOfRatio n 1 = (q + 1074).toNat * 2 ^ 52 + m := by
    rw [magnitudeOfRatio, if_neg hn.ne', hq] at unbounded ⊢
    simp only at unbounded ⊢
    rw [show max (q + 52 - 52) (-1074) = q by omega, ← hm] at unbounded ⊢
    simp only [Nat.pow_eq] at unbounded ⊢
    omega
  have magnitude : (ofNat n).magnitude = m * 2 ^ q := by
    rw [ofNat, ofRatio, rounded, magnitude_ofMagnitude least most (by omega) (by omega)]
  refine ⟨isFinite_ofRatio false Nat.one_pos finite, ?_, ?_⟩
  · calc (1 : ℚ) ≤ 2 ^ binaryExponent n 1 := one_le_zpow₀ one_le_two (by omega)
      _ = 2 ^ 52 * 2 ^ q := unit
      _ ≤ m * 2 ^ q := by
          gcongr
          exact_mod_cast least
      _ = (ofNat n).magnitude := magnitude.symm
  · rw [sub_le_iff_le_add'] at near
    calc (ofNat n).magnitude = m * 2 ^ q := magnitude
      _ ≤ (n / 2 ^ q + 1 / 2) * 2 ^ q := by gcongr
      _ = n + 2 ^ q / 2 := by field_simp
      _ ≤ n * (1 + 1 / 2 ^ 53) := by linarith

/-! ### Shortest digits -/

variable {x : Binary64}

/-- A decimal that reads back is not more than half a unit above. -/
theorem value_le_of_readsBack {d : DecimalForm} (h : x.readsBack d = true) :
    d.value ≤ (x.significand + 1 / 2) * 2 ^ x.scale := by
  have high : compareScaled d.digits d.exponent (4 * x.significand + 2) (x.scale - 2) ≠ .gt := by
    rw [readsBack] at h
    intro e
    simp [e] at h
  rw [compareScaled_ne_gt_iff] at high
  refine high.trans (le_of_eq ?_)
  rw [zpow_sub₀ two_ne_zero]
  push_cast
  ring

theorem readsBack_of_onGrid {tie : Tie} {e : ℤ} {d : DecimalForm} (h : x.onGrid tie e = some d) :
    x.readsBack d = true := by
  rw [onGrid] at h
  split at h
  next hbelow _ => cases h; exact (Bool.and_eq_true_iff.1 hbelow).1
  next habove => cases h; exact habove
  next => cases h
  next hbelow habove =>
    have below := (Bool.and_eq_true_iff.1 hbelow).1
    split at h
    next => cases h; exact habove
    next => cases h; exact below
    next => split at h <;> cases h <;> assumption

theorem readsBack_of_searchGrids {tie : Tie} {fuel : ℕ} {e : ℤ} {d : DecimalForm}
    (h : x.searchGrids tie fuel e = some d) : x.readsBack d = true := by
  induction fuel generalizing e with
  | zero => cases h
  | succ fuel ih =>
      rw [searchGrids, Option.or_eq_some_iff] at h
      obtain h | ⟨-, h⟩ := h
      · exact readsBack_of_onGrid h
      · exact ih h

/-- The exact digits have the exact value. -/
theorem value_exactForm (x : Binary64) : x.exactForm.value = x.magnitude := by
  rw [exactForm]
  split
  next h =>
    rw [DecimalForm.value, ← num_div_den, den, show (-x.scale).toNat = 0 by omega]
    simp
  next h =>
    have inverse : (5 : ℚ) ^ (-x.scale).toNat * 5 ^ x.scale = 1 := by
      rw [← zpow_natCast, ← zpow_add₀ (by norm_num),
        show ((-x.scale).toNat : ℤ) + x.scale = 0 by omega, zpow_zero]
    rw [DecimalForm.value, magnitude, show (10 : ℚ) = 5 * 2 by norm_num, mul_zpow, Nat.pow_eq]
    push_cast
    rw [mul_assoc, ← mul_assoc _ _ (2 ^ x.scale), inverse, one_mul]

/-- **The shortest digits** of a number are not more than half a unit above it. -/
theorem value_shortest_le (tie : Tie) (x : Binary64) :
    (x.shortest tie).value ≤ (x.significand + 1 / 2) * 2 ^ x.scale := by
  have pos : (0 : ℚ) < 2 ^ x.scale := by positivity
  rw [shortest]
  split
  · rw [DecimalForm.value]
    simp only [Nat.cast_zero, zero_mul]
    positivity
  · cases hs : x.searchGrids tie 20 x.topGrid with
    | some d => exact value_le_of_readsBack (readsBack_of_searchGrids hs)
    | none =>
        rw [Option.getD_none, value_exactForm, magnitude]
        gcongr
        linarith

end Binary64

end TranscriptSearch.Number
