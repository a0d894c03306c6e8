/-!
# Text — ranges of code points

A class of characters is a list of ranges of code points. The ranges ascend, so that the walk over
them ends at the first range above the code point.

* `CodeRanges`: ranges, and that they ascend.
* `CodeRanges.contains_iff`: the walk finds exactly the code points that lie in one of the ranges.
-/

namespace TranscriptSearch

namespace CodeRanges

/-- Every range lies above `floor` and above the ranges before it. -/
def AscendingFrom : Nat → List (Nat × Nat) → Prop
  | _, [] => True
  | floor, (lo, hi) :: rest => floor ≤ lo ∧ lo ≤ hi ∧ AscendingFrom (hi + 1) rest

instance decidableAscendingFrom : ∀ floor rs, Decidable (AscendingFrom floor rs)
  | _, [] => .isTrue trivial
  | floor, (lo, hi) :: rest =>
    have := decidableAscendingFrom (hi + 1) rest
    inferInstanceAs (Decidable (floor ≤ lo ∧ lo ≤ hi ∧ AscendingFrom (hi + 1) rest))

/-- Whether `n` lies in one of some ranges that ascend. -/
def walk : List (Nat × Nat) → Nat → Bool
  | [], _ => false
  | (lo, hi) :: rest, n => if n < lo then false else n ≤ hi || walk rest n

end CodeRanges

/-- Ranges of code points, both ends included. -/
structure CodeRanges where
  /-- The ranges. -/
  ranges : List (Nat × Nat)
  /-- They ascend. -/
  ascending : CodeRanges.AscendingFrom 0 ranges

namespace CodeRanges

/-- Whether `n` lies in one of the ranges. -/
def contains (rs : CodeRanges) (n : Nat) : Bool := walk rs.ranges n

theorem le_of_mem_of_ascendingFrom {floor : Nat} {rs : List (Nat × Nat)} {r : Nat × Nat}
    (h : AscendingFrom floor rs) (m : r ∈ rs) : floor ≤ r.1 := by
  induction rs generalizing floor with
  | nil => cases m
  | cons q rest ih =>
    obtain ⟨h₁, h₂, h₃⟩ := h
    rcases List.mem_cons.1 m with rfl | m
    · exact h₁
    · have := ih h₃ m
      omega

theorem walk_iff {floor : Nat} {rs : List (Nat × Nat)} (h : AscendingFrom floor rs) (n : Nat) :
    walk rs n = true ↔ ∃ r ∈ rs, r.1 ≤ n ∧ n ≤ r.2 := by
  induction rs generalizing floor with
  | nil => simp [walk]
  | cons q rest ih =>
    obtain ⟨lo, hi⟩ := q
    obtain ⟨h₁, h₂, h₃⟩ := h
    have below : ∀ r ∈ rest, hi + 1 ≤ r.1 := fun r m => le_of_mem_of_ascendingFrom h₃ m
    simp only [walk, List.mem_cons, exists_eq_or_imp]
    split
    · constructor
      · intro c; cases c
      · rintro (⟨a, _⟩ | ⟨r, m, a, _⟩)
        · omega
        · have := below r m
          omega
    · rw [Bool.or_eq_true, decide_eq_true_iff, ih h₃]
      constructor
      · rintro (a | a)
        · exact .inl ⟨by omega, a⟩
        · exact .inr a
      · rintro (⟨_, a⟩ | a)
        · exact .inl a
        · exact .inr a

/-- **The walk finds what lies in one of the ranges.** -/
theorem contains_iff (rs : CodeRanges) (n : Nat) :
    rs.contains n = true ↔ ∃ r ∈ rs.ranges, r.1 ≤ n ∧ n ≤ r.2 :=
  walk_iff rs.ascending n

end CodeRanges

end TranscriptSearch
