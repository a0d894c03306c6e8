import Mathlib.Algebra.Group.Nat.Even
import TranscriptSearch.Proofs.Query.Vocabulary
import TranscriptSearch.Proofs.Term

/-!
# Query — raw queries side by side

Every quote opens or closes one, so that the quotes of a text are closed when their number is even.
After such a text a blank ends all that is being read: the tokens of what follows are its own, even
if it has a quote that is never closed.

* `isClosed_iff`: the quotes of a text are closed when their number is even.
* `lexLenient_append_blanks`: the tokens of two texts with blanks between them.
* `Vocabulary.qualifiers_ofTokens_append`, `Vocabulary.terms_ofTokens_append`: the query of tokens
  one after the other.
* `Joins`, `Vocabulary.joins_parse`: two raw queries with blanks between them ask for what both ask
  for, if no qualifier is in both.
-/

namespace TranscriptSearch

open Text

namespace Query

/-! ### Quotes -/

namespace Reading

theorem openQuote_start (c : Char) : (start c).openQuote = none ↔ c ≠ '"' := by
  by_cases hc : c = '"'
  · subst hc
    decide
  · rw [start, if_neg hc]
    split <;> simp [openQuote, hc]

/-- **A quote opens or closes one**, and no other character does. -/
theorem openQuote_step (r : Reading) (c : Char) :
    (r.step c).2.openQuote = none ↔ (r.openQuote = none ↔ c ≠ '"') := by
  have outside : ∀ {r : Reading}, r.openQuote = none →
      ((r.openQuote = none ↔ c ≠ '"') ↔ c ≠ '"') := fun hr => by simp [hr]
  cases r with
  | gap => exact (openQuote_start c).trans (outside rfl).symm
  | word w =>
      rw [outside rfl, step]
      split
      next => exact openQuote_start c
      next h =>
        rw [not_or] at h
        split <;> exact iff_of_true rfl h.2
  | colon n =>
      rw [outside rfl, step]
      split
      next hblank => exact iff_of_true rfl fun hc => by subst hc; cases hblank
      next =>
        split
        next hc => exact iff_of_false (by simp [openQuote]) fun hne => hne hc
        next hc => exact iff_of_true rfl hc
  | value n v =>
      rw [outside rfl, step]
      split
      next => exact openQuote_start c
      next h =>
        rw [not_or] at h
        exact iff_of_true rfl h.2
  | phrase p =>
      rw [step]
      split <;> simp_all [openQuote]
  | quotedValue n v =>
      rw [step]
      split <;> simp_all [openQuote]

/-- After a text with an even number of quotes there is a quote open if there was one before. -/
theorem openQuote_scan (r : Reading) (t : Text) :
    (r.scan t).2.openQuote = none ↔ (r.openQuote = none ↔ Even (t.count '"')) := by
  induction t generalizing r with
  | nil => simp [scan]
  | cons c t ih =>
      rw [scan, ih, openQuote_step]
      by_cases hc : c = '"'
      · rw [hc, List.count_cons_self, Nat.even_add_one]
        tauto
      · rw [List.count_cons_of_ne hc]
        tauto

end Reading

variable {s t w : Text}

/-- **The quotes of a text are closed** when their number is even. -/
theorem isClosed_iff : IsClosed t ↔ Even (t.count '"') :=
  (Reading.openQuote_scan .gap t).trans (iff_true_left rfl)

theorem lexLenient_blanks_append (hw : ∀ c ∈ w, isBlank c = true) (t : Text) :
    lexLenient (w ++ t) = lexLenient t := by
  induction w with
  | nil => rfl
  | cons c w ih =>
      obtain ⟨hc, hw⟩ := List.forall_mem_cons.1 hw
      have nothing : IsClosed [] := rfl
      exact (lexLenient_append nothing hc _).trans (ih hw)

/-- **Blanks part the tokens** of a text whose quotes are closed from those of any other. -/
theorem lexLenient_append_blanks (hs : IsClosed s) (hne : w ≠ [])
    (hw : ∀ c ∈ w, isBlank c = true) (t : Text) :
    lexLenient (s ++ w ++ t) = lexLenient s ++ lexLenient t := by
  obtain ⟨c, w, rfl⟩ := List.exists_cons_of_ne_nil hne
  obtain ⟨hc, hw⟩ := List.forall_mem_cons.1 hw
  rw [List.append_assoc, List.cons_append, lexLenient_append hs hc, lexLenient_blanks_append hw]

/-! ### Qualifiers and free text -/

/-- Qualifiers with those of another query in place of their own. -/
def Qualifiers.overlay (q r : Qualifiers) : Qualifiers := ⟨q.entries.overlay r.entries⟩

/-- Pairs one after the other set what the first ones set, overlaid with what the others set. -/
theorem Qualifiers.ofList_append (ps qs : List (Text × Text)) :
    ofList (ps ++ qs) = (ofList ps).overlay (ofList qs) := by
  have entries : (ofList (ps ++ qs)).entries = (ofList ps).entries.overlay (ofList qs).entries := by
    refine SortedMap.ext_get? fun k => ?_
    rw [SortedMap.get?_overlay, entries_ofList, entries_ofList, entries_ofList, List.map_append,
      SortedMap.get?_ofList_append]
  rw [overlay, ← entries]

namespace Vocabulary

variable (v : Vocabulary)

/-- **The qualifiers of tokens one after the other** are those of the first ones overlaid with those
of the second ones. -/
theorem qualifiers_ofTokens_append (tokens more : List Token) :
    (v.ofTokens (tokens ++ more)).qualifiers =
      (v.ofTokens tokens).qualifiers.overlay (v.ofTokens more).qualifiers := by
  simp only [ofTokens, ofParts, List.filterMap_append]
  exact Qualifiers.ofList_append ..

/-- A qualifier of tokens one after the other is that of the second ones, if they set it. -/
theorem get?_ofTokens_append (tokens more : List Token) (name : Text) :
    (v.ofTokens (tokens ++ more)).qualifiers.get? name =
      ((v.ofTokens more).qualifiers.get? name).or ((v.ofTokens tokens).qualifiers.get? name) := by
  rw [qualifiers_ofTokens_append]
  exact SortedMap.get?_overlay ..

/-- The terms of a free text are those of the words of its tokens. -/
theorem terms_ofTokens (rule : TermRule) (tokens : List Token) :
    rule.terms (v.ofTokens tokens).freeText =
      ((v.rest tokens).flatMap fun token => words token.text).flatMap rule.terms := by
  rw [freeText_eq, TermRule.terms_intercalate]

/-- **The terms of tokens one after the other** are those of the first and then those of the second
ones. -/
theorem terms_ofTokens_append (rule : TermRule) (tokens more : List Token) :
    rule.terms (v.ofTokens (tokens ++ more)).freeText =
      rule.terms (v.ofTokens tokens).freeText ++ rule.terms (v.ofTokens more).freeText := by
  rw [terms_ofTokens, terms_ofTokens, terms_ofTokens, rest, List.filter_append,
    List.flatMap_append, List.flatMap_append]
  rfl

end Vocabulary

/-! ### Two queries in one -/

/-- One query asks for what two others ask for: it has the qualifiers of both and the terms of both
free texts. -/
structure Joins (q q₁ q₂ : Query) : Prop where
  /-- The qualifiers are those of the one and of the other. -/
  mem_qualifiers : ∀ p, p ∈ q.qualifiers.toList ↔
    p ∈ q₁.qualifiers.toList ∨ p ∈ q₂.qualifiers.toList
  /-- The terms of the free text are those of the one and then those of the other. -/
  terms : ∀ rule : TermRule,
    rule.terms q.freeText = rule.terms q₁.freeText ++ rule.terms q₂.freeText

/-- No name is that of a qualifier of both queries. -/
def Apart (q₁ q₂ : Query) : Prop :=
  ∀ name, q₁.qualifiers.contains name = true → q₂.qualifiers.contains name = false

/-- The qualifiers of a raw query are those that a look-up finds, in lower case. -/
theorem Vocabulary.mem_toList_parse_iff {v : Vocabulary} {input name value : Text} :
    (name, value) ∈ (v.parse input).qualifiers.toList ↔
      lowercase name = name ∧ (v.parse input).qualifiers.get? name = some value := by
  constructor
  · intro h
    have lower := (isPair_of_mem h).isLower
    refine ⟨lower, ?_⟩
    rwa [Qualifiers.get?, lower, SortedMap.get?_eq_some_iff]
  · rintro ⟨lower, h⟩
    rwa [Qualifiers.get?, lower, SortedMap.get?_eq_some_iff] at h

/-- **Two raw queries with blanks between them ask for what both ask for**, if the quotes of the
first are closed and no qualifier is in both. -/
theorem Vocabulary.joins_parse {v : Vocabulary} {a b : Text} (ha : IsClosed a) (hne : w ≠ [])
    (hw : ∀ c ∈ w, isBlank c = true) (h : Apart (v.parse a) (v.parse b)) :
    Joins (v.parse (a ++ w ++ b)) (v.parse a) (v.parse b) := by
  have parse : v.parse (a ++ w ++ b) = v.ofTokens (lexLenient a ++ lexLenient b) := by
    rw [parse_eq, lexLenient_append_blanks ha hne hw]
  have get? : ∀ name, (v.parse (a ++ w ++ b)).qualifiers.get? name =
      ((v.parse b).qualifiers.get? name).or ((v.parse a).qualifiers.get? name) := by
    intro name
    rw [parse, get?_ofTokens_append, ← parse_eq, ← parse_eq]
  refine ⟨fun ⟨name, value⟩ => ?_, fun rule => ?_⟩
  · rw [mem_toList_parse_iff, mem_toList_parse_iff, mem_toList_parse_iff, get?, ← and_or_left]
    refine and_congr_right fun _ => ?_
    cases hb : (v.parse b).qualifiers.get? name with
    | none => simp
    | some other =>
        have hnone : (v.parse a).qualifiers.get? name = none := by
          by_contra hsome
          have hcontains := h name (Option.isSome_iff_ne_none.2 hsome)
          rw [Qualifiers.contains, hb] at hcontains
          cases hcontains
        simp [hnone]
  · rw [parse, terms_ofTokens_append, ← parse_eq, ← parse_eq]

end Query

end TranscriptSearch
