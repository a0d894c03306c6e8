import TranscriptSearch.Proofs.Term
import TranscriptSearch.Proofs.Text.Casing

/-!
# Terms — a term as a text

A term is cut out of a text and put in lower case.  As a text it is cut again, and then it matters
whether lower-casing brought in a character that parts terms.  One does: the capital I with a dot
above becomes an i and a combining dot, and the combining dot is not alphanumeric.

* `combiningDot`: the combining dot above.
* `isAlphanumeric_of_mem_lowercase`: the lower case of alphanumeric characters is alphanumeric, the
  combining dot apart.
* `TermRule.IsTerm`: what is known of every term.
* `TermRule.combiningDot_not_mem`: a text without that capital has no term with a combining dot.
* `TermRule.IsTerm.terms_eq_iff`: a term is its own only term unless it has a combining dot.
-/

namespace TranscriptSearch

namespace Text

/-- The combining dot above. -/
def combiningDot : Char := '\u0307'

namespace CaseRun

/-- Whether a run is moved to alphanumeric characters. -/
def isMovedToLetters (r : CaseRun) : Bool :=
  alphanumericRanges.ranges.any fun q => Nat.ble q.1 r.low && Nat.ble r.high q.2

theorem isMovedToLetters_all : caseRuns.all isMovedToLetters = true := by decide +kernel

/-- **What a letter is moved to** is alphanumeric. -/
theorem contains_moved {r : CaseRun} {n : Nat} (hr : r ∈ caseRuns) (hn : r.Holds n) :
    alphanumericRanges.contains (n + r.shift).toNat = true := by
  obtain ⟨habove, hbelow, -⟩ := hn.moved (low_pos hr)
  obtain ⟨q, hq, hwithin⟩ := List.any_eq_true.1 (List.all_eq_true.1 isMovedToLetters_all r hr)
  simp only [Bool.and_eq_true, Nat.ble_eq] at hwithin
  exact (alphanumericRanges.contains_iff _).2
    ⟨q, hq, hwithin.1.trans habove, hbelow.trans hwithin.2⟩

end CaseRun

theorem isAlphanumeric_of_mem_lowercaseChar {c d : Char} (hc : isAlphanumeric c = true)
    (hd : d ∈ lowercaseChar c) : isAlphanumeric d = true ∨ (d = combiningDot ∧ c = '\u0130') := by
  rw [lowercaseChar] at hd
  split at hd
  next hdotted =>
    simp only [List.mem_cons, List.not_mem_nil, or_false] at hd
    rcases hd with rfl | rfl
    · exact .inl (by decide)
    · exact .inr ⟨rfl, hdotted⟩
  next =>
    obtain rfl := List.mem_singleton.1 hd
    obtain hsame | ⟨r, hr, hn, hmoved⟩ := CaseRun.lower_eq_or caseRuns c.toNat
    · rw [hsame, Char.ofNat_toNat]
      exact .inl hc
    · rw [hmoved, isAlphanumeric, toNat_ofNat (CaseRun.of_moved hr hn).1]
      exact .inl (CaseRun.contains_moved hr hn)

theorem isAlphanumeric_of_mem_lowercaseAfter {before t : Text} {d : Char}
    (ht : ∀ c ∈ t, isAlphanumeric c = true) (hd : d ∈ lowercaseAfter before t) :
    isAlphanumeric d = true ∨ (d = combiningDot ∧ '\u0130' ∈ t) := by
  induction t generalizing before with
  | nil => cases hd
  | cons c t ih =>
      obtain ⟨hc, ht⟩ := List.forall_mem_cons.1 ht
      rw [lowercaseAfter, List.mem_append] at hd
      rcases hd with hd | hd
      · split at hd
        next =>
          rw [List.mem_singleton.1 hd]
          split <;> exact .inl (by decide)
        next =>
          obtain hletter | ⟨hdot, rfl⟩ := isAlphanumeric_of_mem_lowercaseChar hc hd
          · exact .inl hletter
          · exact .inr ⟨hdot, List.mem_cons_self⟩
      · exact (ih ht hd).imp_right (And.imp_right (List.mem_cons_of_mem c))

/-- **The lower case of alphanumeric characters** is alphanumeric, but for the combining dot, which
only comes from a capital I with a dot above. -/
theorem isAlphanumeric_of_mem_lowercase {t : Text} {d : Char}
    (ht : ∀ c ∈ t, isAlphanumeric c = true)
    (hd : d ∈ lowercase t) : isAlphanumeric d = true ∨ (d = combiningDot ∧ '\u0130' ∈ t) :=
  isAlphanumeric_of_mem_lowercaseAfter ht hd

theorem isAlphanumeric_combiningDot : isAlphanumeric combiningDot = false := by decide

theorem length_le_length_lowercaseAfter (before t : Text) :
    t.length ≤ (lowercaseAfter before t).length := by
  induction t generalizing before with
  | nil => exact Nat.le_refl 0
  | cons c t ih =>
      have later := ih (c :: before)
      have first : 1 ≤ (lowercaseChar c).length := by
        rw [lowercaseChar]
        split <;> simp
      rw [lowercaseAfter, List.length_append, List.length_cons]
      split
      next => simp only [List.length_singleton]; omega
      next => omega

/-- Lower-casing makes no text shorter. -/
theorem length_le_length_lowercase (t : Text) : t.length ≤ (lowercase t).length :=
  length_le_length_lowercaseAfter [] t

theorem isLower_of_mem_lowercase {t : Text} {d : Char} (hd : d ∈ lowercase t) : IsLower d :=
  (of_mem_lowercaseAfter hd).1

end Text

open Text

namespace TermRule

variable {r : TermRule} {t w v : Text}

/-- What is known of a term, whatever text it comes from. -/
structure IsTerm (r : TermRule) (w : Text) : Prop where
  /-- It is long enough. -/
  length : r.minLength ≤ w.length
  /-- It is in lower case. -/
  isLower : ∀ c ∈ w, IsLower c
  /-- It has alphanumeric characters and combining dots only. -/
  isAlphanumeric : ∀ c ∈ w, isAlphanumeric c = true ∨ c = combiningDot

theorem isTerm_of_mem_terms (h : w ∈ r.terms t) : r.IsTerm w := by
  obtain ⟨v, hv, rfl⟩ := List.mem_map.1 h
  obtain ⟨hrun, hlength⟩ := List.mem_filter.1 hv
  have letters : ∀ c ∈ v, Text.isAlphanumeric c = true := fun c hc => ((of_mem_runs hrun).2 c hc).2
  refine ⟨(of_decide_eq_true hlength).trans (length_le_length_lowercase v),
    fun c hc => isLower_of_mem_lowercase hc, fun c hc => ?_⟩
  exact (isAlphanumeric_of_mem_lowercase letters hc).imp_right And.left

/-- **Only a capital I with a dot above gives a term with a combining dot.** -/
theorem combiningDot_not_mem (ht : '\u0130' ∉ t) (h : w ∈ r.terms t) : combiningDot ∉ w := by
  obtain ⟨v, hv, rfl⟩ := List.mem_map.1 h
  have hrun := (of_mem_runs (List.mem_filter.1 hv).1).2
  intro hdot
  obtain hletter | ⟨-, hcapital⟩ := isAlphanumeric_of_mem_lowercase (fun c hc => (hrun c hc).2) hdot
  · rw [isAlphanumeric_combiningDot] at hletter
    cases hletter
  · exact ht (hrun _ hcapital).1

namespace IsTerm

theorem ne_nil (h : r.IsTerm w) : w ≠ [] :=
  List.length_pos_iff.1 (Nat.lt_of_lt_of_le r.minLength_pos h.length)

/-- Without a combining dot, a term is one run. -/
theorem isAlphanumeric_of_not_mem (h : r.IsTerm w) (hdot : combiningDot ∉ w) :
    ∀ c ∈ w, Text.isAlphanumeric c = true := by
  intro c hc
  obtain hletter | rfl := h.isAlphanumeric c hc
  · exact hletter
  · exact absurd hc hdot

/-- **A term without a combining dot is its own only term.** -/
theorem terms_eq (h : r.IsTerm w) (hdot : combiningDot ∉ w) : r.terms w = [w] := by
  rw [terms, runs_of_all h.ne_nil (h.isAlphanumeric_of_not_mem hdot),
    List.filter_cons_of_pos (by simpa using h.length), List.map_cons, lowercase,
    lowercaseAfter_of_isLower h.isLower]
  rfl

/-- **A term is its own only term unless it has a combining dot**: the terms of a term have none, as
it has no capital. -/
theorem terms_eq_iff (h : r.IsTerm w) : r.terms w = [w] ↔ combiningDot ∉ w := by
  refine ⟨fun hterms => ?_, h.terms_eq⟩
  have capital : '\u0130' ∉ w := fun hmem => absurd (h.isLower _ hmem) (by decide)
  exact combiningDot_not_mem capital (hterms ▸ List.mem_singleton_self w)

end IsTerm

end TermRule

end TranscriptSearch
