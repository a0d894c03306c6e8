import TranscriptSearch.Index.Build
import TranscriptSearch.Index.Search
import TranscriptSearch.Proofs.Number.Decimal
import TranscriptSearch.Proofs.Query.LetterCase

/-!
# Index — the case of a search

Each thing that a query asks of a session is asked in a way of its own: years and numbers as digits,
tracks in any case of ASCII letters, transcripts and free text by their terms.  None of them tells a
query from the folded one.

* `TermRule.terms_foldCase`: a folded text has the terms of the text.
* `Number.decimal_eq_foldCase_iff`: digits are not folded.
* `Index.satisfies_foldCase`, `Index.searchedTerms_foldCase`: a folded query asks for the same.
* `Index.answers_of_eqIgnoringAsciiCase`: raw queries that differ in the case of ASCII letters have
  the same answers.
-/

namespace TranscriptSearch

open Text

/-- **A folded text has the terms of the text.** -/
theorem TermRule.terms_foldCase (rule : TermRule) (t : Text) :
    rule.terms (foldCase t) = rule.terms t := by
  have long : (fun w : Text => decide (rule.minLength ≤ w.length)) ∘ foldCase =
      fun w => decide (rule.minLength ≤ w.length) :=
    funext fun w => by rw [Function.comp, length_foldCase]
  rw [terms, runs_foldCase isAlphanumeric_asciiLower, List.filter_map, long, List.map_map]
  exact List.map_congr_left fun w _ => lowercase_foldCase w

namespace Number

theorem isDigit_asciiLower (c : Char) : isDigit (asciiLower c) = isDigit c :=
  eq_of_asciiLower (by decide) c

theorem asciiLower_of_isDigit {c : Char} (h : isDigit c = true) : asciiLower c = c := by
  refine (asciiLower_eq_iff (fun n hn => ?_) c).2 rfl
  have letters : ∀ n < 26, isDigit (Char.ofNat (97 + n)) = false ∧
      isDigit (Char.ofNat (65 + n)) = false := by decide
  constructor
  · rintro rfl
    rw [(letters n hn).1] at h
    cases h
  · rintro rfl
    rw [(letters n hn).2] at h
    cases h

theorem foldCase_of_isDigit {t : Text} (h : ∀ c ∈ t, isDigit c = true) : foldCase t = t :=
  (List.map_congr_left fun c hc => asciiLower_of_isDigit (h c hc)).trans (List.map_id t)

/-- **Digits are not folded**: a folded text is a number in digits just when the text is. -/
theorem decimal_eq_foldCase_iff {n : Nat} {t : Text} : decimal n = foldCase t ↔ decimal n = t := by
  constructor
  · intro h
    have digits : ∀ c ∈ t, isDigit c = true := by
      intro c hc
      have digit : asciiLower c ∈ decimal n := by
        rw [h]
        exact List.mem_map_of_mem hc
      rw [← isDigit_asciiLower]
      exact isDigit_of_mem_decimal digit
    rw [h, foldCase_of_isDigit digits]
  · rintro rfl
    exact (foldCase_of_isDigit fun c hc => isDigit_of_mem_decimal hc).symm

end Number

namespace Index

variable (x : Index)

theorem hasTerms_foldCase (s : Session) (t : Text) :
    x.hasTerms s (foldCase t) = x.hasTerms s t := by
  rw [hasTerms, TermRule.terms_foldCase, hasTerms]

/-- **Each qualifier, for itself.**  A folded value asks for what the value asks for. -/
theorem satisfiesQualifier_foldCase (s : Session) (name value : Text) :
    x.satisfiesQualifier s name (foldCase value) = x.satisfiesQualifier s name value := by
  have number :
      ∀ n, (Number.decimal n == foldCase value) = (Number.decimal n == value) := fun n => by
    rw [Bool.eq_iff_iff, beq_iff_eq, beq_iff_eq, Number.decimal_eq_foldCase_iff]
  simp only [satisfiesQualifier, number, eqIgnoringAsciiCase_foldCase, hasTerms_foldCase]

theorem satisfies_foldCase (k : SessionKey) (q : Query) :
    x.satisfies k q.foldCase = x.satisfies k q := by
  rw [satisfies, satisfies]
  cases x.sessions.get? k with
  | none => rfl
  | some s =>
      have qualifiers : q.foldCase.qualifiers.toList.all (fun p => x.satisfiesQualifier s p.1 p.2) =
          q.qualifiers.toList.all fun p => x.satisfiesQualifier s p.1 p.2 := by
        change (q.qualifiers.toList.map fun e => (e.1, foldCase e.2)).all _ = _
        rw [List.all_map]
        exact congrArg (List.all _) (funext fun p => x.satisfiesQualifier_foldCase s p.1 p.2)
      exact congrArg₂ (· && ·) qualifiers (x.hasTerms_foldCase s q.freeText)

theorem searchedTerms_foldCase (q : Query) : x.searchedTerms q.foldCase = x.searchedTerms q := by
  have value : q.foldCase.qualifiers.get? "transcript".toList =
      (q.qualifiers.get? "transcript".toList).map foldCase := SortedMap.get?_mapValues ..
  rw [searchedTerms, searchedTerms, value]
  refine congrArg₂ (· ++ ·) (x.rule.terms_foldCase q.freeText) ?_
  cases q.qualifiers.get? "transcript".toList with
  | none => rfl
  | some value => exact x.rule.terms_foldCase value

theorem matchingLines_foldCase (k : SessionKey) (q : Query) :
    x.matchingLines k q.foldCase = x.matchingLines k q := by
  rw [matchingLines, matchingLines, satisfies_foldCase, searchedTerms_foldCase]

/-- **The case of a search does not matter.**  Two raw queries that differ in the case of ASCII
letters only have the same answers: they find the same sessions, in the same order, and the same
lines of each. -/
theorem answers_of_eqIgnoringAsciiCase (v : Query.Vocabulary) {raw raw' : Text}
    (h : eqIgnoringAsciiCase raw raw' = true) :
    (∀ k, x.search v raw k = x.search v raw' k) ∧
      x.matchingSessions v raw = x.matchingSessions v raw' ∧
      ∀ k, x.matchingLines k (v.parse raw) = x.matchingLines k (v.parse raw') := by
  have same : (v.parse raw).foldCase = (v.parse raw').foldCase := by
    rw [← v.parse_foldCase, ← v.parse_foldCase, eqIgnoringAsciiCase_iff.1 h]
  have satisfies : ∀ k, x.satisfies k (v.parse raw) = x.satisfies k (v.parse raw') := fun k => by
    rw [← x.satisfies_foldCase, same, satisfies_foldCase]
  refine ⟨satisfies, List.filter_congr fun k _ => satisfies k, fun k => ?_⟩
  rw [← x.matchingLines_foldCase, same, matchingLines_foldCase]

/-- An index of one line, with a capital sigma between two letters. -/
def oneTalk : Index :=
  build (.ofMinLength 1)
    [⟨2015, 1, some "Design".toList, [⟨"An odd pair: aΣb, left open".toList, .zero⟩]⟩]

/-- A query with two qualifiers, a pair that is none and a quote that is never closed. -/
def loudQuery : Text := "TRACK:Design transcript:\"AΣB\" Odd:PAIR \"Left Open".toList

/-- The same query in other cases. -/
def quietQuery : Text := "track:dESIGN Transcript:\"aΣb\" odd:pair \"left OPEN".toList

/-- The two find the session and its line. -/
theorem loud_answers_quiet :
    eqIgnoringAsciiCase loudQuery quietQuery = true ∧
      oneTalk.matchingSessions (.ofNames ["track".toList, "transcript".toList]) quietQuery =
        [⟨2015, 1⟩] ∧
      (oneTalk.matchingLines ⟨2015, 1⟩
        (Query.Vocabulary.parse (.ofNames ["track".toList, "transcript".toList])
          quietQuery)).length = 1 := by
  have same : eqIgnoringAsciiCase loudQuery quietQuery = true := by decide
  obtain ⟨-, sessions, lines⟩ :=
    answers_of_eqIgnoringAsciiCase oneTalk (.ofNames ["track".toList, "transcript".toList]) same
  refine ⟨same, ?_, ?_⟩
  · rw [← sessions]
    decide
  · rw [← lines]
    decide

end Index

end TranscriptSearch
