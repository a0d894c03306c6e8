import TranscriptSearch.Proofs.Text.Words
import TranscriptSearch.Term

/-!
# Terms — a text has the terms of its parts

A character that is not alphanumeric ends a term, and no blank is alphanumeric.  So a text can be
cut at such a character, or into words, and it can be squeezed: its terms are those of the parts, in
their order.  Lower-casing looks at the neighbours of a letter, but not beyond the run it stands in.

* `isAlphanumeric_of_isBlank`: no blank is alphanumeric.
* `TermRule.terms_append`, `TermRule.terms_append_of_head`: the terms of two texts.
* `TermRule.terms_intercalate`, `TermRule.terms_flatMap_words`: the terms of texts one space apart
  and those of the words of a text.
-/

namespace TranscriptSearch

namespace CodeRanges

/-- Whether no range of one table meets one of another. -/
def isApart (rs qs : CodeRanges) : Bool :=
  rs.ranges.all fun r => qs.ranges.all fun q => Nat.blt r.2 q.1 || Nat.blt q.2 r.1

theorem contains_eq_false_of_isApart {rs qs : CodeRanges} {n : Nat} (h : rs.isApart qs = true)
    (hn : rs.contains n = true) : qs.contains n = false := by
  rw [← Bool.not_eq_true, contains_iff]
  rintro ⟨q, hq, hfirst, hlast⟩
  obtain ⟨r, hr, hfirst', hlast'⟩ := (rs.contains_iff n).1 hn
  have apart := List.all_eq_true.1 (List.all_eq_true.1 h r hr) q hq
  simp only [Bool.or_eq_true, Nat.blt_eq] at apart
  omega

end CodeRanges

namespace Text

theorem isApart_blankRanges : blankRanges.isApart alphanumericRanges = true := by decide +kernel

/-- **No blank is alphanumeric.** -/
theorem isAlphanumeric_of_isBlank {c : Char} (h : isBlank c = true) : isAlphanumeric c = false :=
  CodeRanges.contains_eq_false_of_isApart isApart_blankRanges h

theorem isAlphanumeric_quote : isAlphanumeric '"' = false := by decide

end Text

open Text

namespace TermRule

variable {c : Char}

@[simp] theorem terms_nil (rule : TermRule) : rule.terms [] = [] := rfl

/-- **A character that is not alphanumeric parts terms.** -/
theorem terms_append (rule : TermRule) (hc : isAlphanumeric c = false) (s t : Text) :
    rule.terms (s ++ c :: t) = rule.terms s ++ rule.terms t := by
  rw [terms, runs_append hc, List.filter_append, List.map_append]
  rfl

theorem terms_cons (rule : TermRule) (hc : isAlphanumeric c = false) (t : Text) :
    rule.terms (c :: t) = rule.terms t := rule.terms_append hc [] t

/-- Two texts have the terms of each, if the second one does not go on with a term. -/
theorem terms_append_of_head (rule : TermRule) (s : Text) {t : Text}
    (h : ∀ c ∈ t.head?, isAlphanumeric c = false) :
    rule.terms (s ++ t) = rule.terms s ++ rule.terms t := by
  cases t with
  | nil => simp
  | cons c t =>
      have hc : isAlphanumeric c = false := h c rfl
      rw [rule.terms_append hc, rule.terms_cons hc]

theorem terms_flatMap_runs (rule : TermRule) (ts : List Text) :
    ts.flatMap rule.terms =
      ((ts.flatMap (runs isAlphanumeric)).filter fun w => rule.minLength ≤ w.length).map
        lowercase := by
  rw [List.filter_flatMap, List.map_flatMap]
  rfl

/-- **The terms of texts one space apart** are the terms of each. -/
theorem terms_intercalate (rule : TermRule) (ts : List Text) :
    rule.terms ([' '].intercalate ts) = ts.flatMap rule.terms := by
  have space : isAlphanumeric ' ' = false := isAlphanumeric_of_isBlank isBlank_space
  rw [terms_flatMap_runs, ← runs_intercalate space]
  rfl

/-- **The terms of the words of a text** are those of the text. -/
theorem terms_flatMap_words (rule : TermRule) (t : Text) :
    (words t).flatMap rule.terms = rule.terms t := by
  have solid : ∀ c, isAlphanumeric c = true → (!isBlank c) = true := by
    intro c hc
    by_contra hblank
    rw [isAlphanumeric_of_isBlank (by simpa using hblank)] at hc
    cases hc
  rw [terms_flatMap_runs, words, flatMap_runs solid]
  rfl

end TermRule

end TranscriptSearch
