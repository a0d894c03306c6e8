import Mathlib.Data.List.Basic
import TranscriptSearch.Text.Blank
import TranscriptSearch.Text.Casing

/-!
# Text — lower case is reached at once

A run of upper-case code points is moved as a whole, to where no run begins or ends, so that its
letters are their own lower case.  The tables are walked through once, run by run.

* `CaseRun.lower_lower`: a code point is lowered at once.
* `IsLower`: a character that is its own lower case, whatever stands beside it.
* `lowercase_lowercase`: a lower-case text is its own lower case.
* `mem_lowercase`: lower-casing brings in no blanks, and no quotes and colons.
-/

namespace TranscriptSearch.Text

namespace CaseRun

/-- Whether a code point is one of a run. -/
def Holds (r : CaseRun) (n : Nat) : Prop :=
  r.first ≤ n ∧ n ≤ r.last ∧ (n - r.first) % r.stride = 0

/-- The lower case of the first letter of a run. -/
def low (r : CaseRun) : Nat := (r.first + r.shift).toNat

/-- The lower case of the last letter of a run. -/
def high (r : CaseRun) : Nat := (r.last + r.shift).toNat

/-- Whether no letter of one run becomes a letter of another: the run is moved below it, or above
it, or in between its letters. -/
def avoids (r q : CaseRun) : Bool :=
  Nat.blt q.last r.low || (Nat.blt r.high q.first ||
    (q.stride == 2 && (r.stride == 2 || r.first == r.last) && (r.low + q.first) % 2 == 1))

/-- Whether a run is moved to characters other than those with a lower case of two characters or of
two kinds, which are no blanks and stand above the quote and the colon. -/
def isMovedWell (r : CaseRun) : Bool :=
  Nat.blt 0x3A r.low &&
    (Nat.blt r.high 0xD800 || (Nat.blt 0xDFFF r.low && Nat.blt r.high 0x110000)) &&
    ((0x130, 0x130) :: (0x3A3, 0x3A3) :: blankRanges.ranges).all fun b =>
      Nat.blt r.high b.1 || Nat.blt b.2 r.low

theorem avoids_all : (caseRuns.all fun r => caseRuns.all r.avoids) = true := by decide +kernel

theorem isMovedWell_all : caseRuns.all isMovedWell = true := by decide

variable {r q : CaseRun} {rs : List CaseRun} {n : Nat}

theorem low_pos (hr : r ∈ caseRuns) : 0 < r.low := by
  have := List.all_eq_true.1 isMovedWell_all r hr
  simp only [isMovedWell, Bool.and_eq_true, Nat.blt_eq] at this
  omega

/-- A code point is left alone, or is moved with the run that holds it. -/
theorem lower_eq_or (rs : List CaseRun) (n : Nat) :
    lower rs n = n ∨ ∃ r ∈ rs, r.Holds n ∧ lower rs n = (n + r.shift).toNat := by
  induction rs with
  | nil => exact .inl rfl
  | cons r rs ih =>
      have later :
          lower rs n = n ∨ ∃ q ∈ r :: rs, q.Holds n ∧ lower rs n = (n + q.shift).toNat := by
        obtain h | ⟨q, hq, h⟩ := ih
        · exact .inl h
        · exact .inr ⟨q, List.mem_cons_of_mem r hq, h⟩
      rw [lower]
      split
      next => exact .inl rfl
      next hfirst =>
        split
        next hlast =>
          split
          next hstride =>
            exact .inr ⟨r, List.mem_cons_self, ⟨Nat.not_lt.1 hfirst, hlast, hstride⟩, rfl⟩
          next => exact later
        next => exact later

/-- A code point that no run holds is left alone. -/
theorem lower_eq_self (h : ∀ r ∈ rs, ¬ r.Holds n) : lower rs n = n := by
  obtain hsame | ⟨r, hr, hn, -⟩ := lower_eq_or rs n
  · exact hsame
  · exact absurd hn (h r hr)

/-- A letter of a run is moved to between the lower cases of the first and of the last one. -/
theorem Holds.moved (hn : r.Holds n) (hlow : 0 < r.low) :
    r.low ≤ (n + r.shift).toNat ∧ (n + r.shift).toNat ≤ r.high ∧
      (r.stride = 2 ∨ r.first = r.last → ((n + r.shift).toNat + r.low) % 2 = 0) := by
  obtain ⟨hfirst, hlast, hstride⟩ := hn
  rw [low] at hlow
  refine ⟨by rw [low]; omega, by rw [high]; omega, ?_⟩
  rintro (h | h)
  · rw [h] at hstride
    rw [low]
    omega
  · rw [low]
    omega

theorem not_holds_of_avoids (h : r.avoids q = true) (hn : r.Holds n) (hlow : 0 < r.low) :
    ¬ q.Holds (n + r.shift).toNat := by
  rintro ⟨hfirst, hlast, hstride⟩
  obtain ⟨habove, hbelow, heven⟩ := hn.moved hlow
  simp only [avoids, Bool.or_eq_true, Bool.and_eq_true, Nat.blt_eq, beq_iff_eq] at h
  obtain h | h | ⟨⟨hq, hr⟩, hodd⟩ := h
  · omega
  · omega
  · rw [hq] at hstride
    have := heven hr
    omega

/-- **A code point is lowered at once.** -/
theorem lower_lower (n : Nat) : lower caseRuns (lower caseRuns n) = lower caseRuns n := by
  obtain hsame | ⟨r, hr, hn, hmoved⟩ := lower_eq_or caseRuns n
  · rw [hsame, hsame]
  · rw [hmoved]
    refine lower_eq_self fun q hq => not_holds_of_avoids ?_ hn (low_pos hr)
    exact List.all_eq_true.1 (List.all_eq_true.1 avoids_all r hr) q hq

/-- **What a letter is moved to** is a character, no blank, and none of those that lower-casing or
the syntax of queries treats apart. -/
theorem of_moved (hr : r ∈ caseRuns) (hn : r.Holds n) :
    (n + r.shift).toNat.isValidChar ∧ 0x3A < (n + r.shift).toNat ∧
      (n + r.shift).toNat ≠ 0x130 ∧ (n + r.shift).toNat ≠ 0x3A3 ∧
      blankRanges.contains (n + r.shift).toNat = false := by
  have well := List.all_eq_true.1 isMovedWell_all r hr
  simp only [isMovedWell, Bool.and_eq_true, Bool.or_eq_true, Nat.blt_eq, List.all_cons] at well
  obtain ⟨⟨hlow, hvalid⟩, hdot, hsigma, hblank⟩ := well
  obtain ⟨habove, hbelow, -⟩ := hn.moved (by omega)
  refine ⟨?_, by omega, by omega, by omega, ?_⟩
  · rw [Nat.isValidChar]
    omega
  · rw [← Bool.not_eq_true, CodeRanges.contains_iff]
    rintro ⟨b, hb, hfirst, hlast⟩
    have := List.all_eq_true.1 hblank b hb
    simp only [Bool.or_eq_true, Nat.blt_eq] at this
    omega

end CaseRun

/-! ### Characters -/

/-- A character is its own lower case, whatever stands beside it. -/
def IsLower (c : Char) : Prop := c ≠ 'Σ' ∧ lowercaseChar c = [c]

instance (c : Char) : Decidable (IsLower c) := inferInstanceAs (Decidable (_ ∧ _))

/-- A letter that comes from lower-casing: it parts no words, and a query is not written with it. -/
def IsPlainLetter (c : Char) : Prop := isBlank c = false ∧ c ≠ '"' ∧ c ≠ ':'

instance (c : Char) : Decidable (IsPlainLetter c) := inferInstanceAs (Decidable (_ ∧ _))

theorem toNat_ofNat {n : Nat} (h : n.isValidChar) : (Char.ofNat n).toNat = n := by
  rw [Char.ofNat, dif_pos h]
  rfl

/-- **The lower case of a character** is in lower case: the character itself, or plain letters. -/
theorem of_mem_lowercaseChar {c d : Char} (hc : c ≠ 'Σ') (hd : d ∈ lowercaseChar c) :
    IsLower d ∧ (d = c ∨ IsPlainLetter d) := by
  rw [lowercaseChar] at hd
  split at hd
  next =>
    have both : IsLower d ∧ IsPlainLetter d := by
      simp only [List.mem_cons, List.not_mem_nil, or_false] at hd
      rcases hd with rfl | rfl <;> decide
    exact both.imp_right .inr
  next hdot =>
    obtain rfl := List.mem_singleton.1 hd
    obtain hsame | ⟨r, hr, hn, hmoved⟩ := CaseRun.lower_eq_or caseRuns c.toNat
    · rw [hsame, Char.ofNat_toNat]
      refine ⟨⟨hc, ?_⟩, .inl rfl⟩
      rw [lowercaseChar, if_neg hdot, hsame, Char.ofNat_toNat]
    · obtain ⟨hvalid, habove, hnotDot, hnotSigma, hblank⟩ := CaseRun.of_moved hr hn
      have again := CaseRun.lower_lower c.toNat
      rw [hmoved] at again ⊢
      have value := toNat_ofNat hvalid
      have other : ∀ {k : Char}, (c.toNat + r.shift).toNat ≠ k.toNat →
          Char.ofNat (c.toNat + r.shift).toNat ≠ k := by
        intro k hk he
        exact hk (by rw [← he, value])
      refine ⟨⟨other hnotSigma, ?_⟩, .inr ⟨?_, other ?_, other ?_⟩⟩
      · rw [lowercaseChar, if_neg (other (k := '\u0130') hnotDot), value, again]
      · rw [isBlank, value, hblank]
      · exact Nat.ne_of_gt (Nat.lt_trans (show 0x22 < 0x3A by decide) habove)
      · exact Nat.ne_of_gt habove

/-! ### Texts -/

theorem of_mem_lowercaseAfter {before t : Text} {d : Char} (hd : d ∈ lowercaseAfter before t) :
    IsLower d ∧ (d ∈ t ∨ IsPlainLetter d) := by
  induction t generalizing before with
  | nil => cases hd
  | cons c t ih =>
      rw [lowercaseAfter, List.mem_append] at hd
      rcases hd with hd | hd
      · split at hd
        next =>
          have sigma : IsLower d ∧ IsPlainLetter d := by
            rw [List.mem_singleton.1 hd]
            split <;> decide
          exact sigma.imp_right .inr
        next hc =>
          obtain ⟨hlower, rfl | hplain⟩ := of_mem_lowercaseChar hc hd
          · exact ⟨hlower, .inl List.mem_cons_self⟩
          · exact ⟨hlower, .inr hplain⟩
      · exact (ih hd).imp_right (Or.imp_left (List.mem_cons_of_mem c))

/-- **Lower-casing brings in plain letters only.** -/
theorem mem_lowercase {t : Text} {d : Char} (hd : d ∈ lowercase t) : d ∈ t ∨ IsPlainLetter d :=
  (of_mem_lowercaseAfter hd).2

/-- The lower case of a text that is not empty is not empty, and only its first character comes from
the first one of the text, plain letters apart. -/
theorem exists_lowercase_cons (c : Char) (t : Text) :
    ∃ d rest, lowercase (c :: t) = d :: rest ∧ ∀ e ∈ rest, e ∈ t ∨ IsPlainLetter e := by
  have later : ∀ e ∈ lowercaseAfter [c] t, e ∈ t ∨ IsPlainLetter e := fun e he =>
    (of_mem_lowercaseAfter he).2
  rw [lowercase, lowercaseAfter]
  split
  next => exact ⟨_, _, rfl, later⟩
  next =>
    rw [lowercaseChar]
    split
    next =>
      refine ⟨'i', _, rfl, fun e he => ?_⟩
      rcases List.mem_cons.1 he with rfl | he
      · exact .inr (by decide)
      · exact later e he
    next => exact ⟨_, _, rfl, later⟩

theorem lowercaseAfter_of_isLower {before t : Text} (h : ∀ c ∈ t, IsLower c) :
    lowercaseAfter before t = t := by
  induction t generalizing before with
  | nil => rfl
  | cons c t ih =>
      obtain ⟨⟨hsigma, hc⟩, ht⟩ := List.forall_mem_cons.1 h
      rw [lowercaseAfter, if_neg hsigma, hc, ih ht]
      rfl

/-- **A lower-case text is its own lower case.** -/
theorem lowercase_lowercase (t : Text) : lowercase (lowercase t) = lowercase t :=
  lowercaseAfter_of_isLower fun _ hc => (of_mem_lowercaseAfter hc).1

end TranscriptSearch.Text
