import TranscriptSearch.Proofs.Query.Juxtaposition

/-!
# Query — a raw query is read part by part

Blanks after a text whose quotes are closed part a raw query in two.  Each part can be read on its
own, and the query is the one part overlaid with the other: where both have a value for a name, that
of the second one stands, and the free texts are side by side.

* `Text.beside`, `Query.overlay`: what stands when something comes later.
* `Vocabulary.ofTokens_append`: the query of tokens one after the other.
* `Vocabulary.recognizes_ofNames_iff`: the names that a vocabulary recognizes.
* `Vocabulary.parse_overlay`: the query of two parts, and the qualifiers that a query can have.
-/

namespace TranscriptSearch

open Text

/-! ### Overlays -/

namespace Text

/-- Two texts one space apart, or the one that is not empty alone. -/
def beside (s t : Text) : Text := if s = [] then t else if t = [] then s else s ++ ' ' :: t

/-- The squeezed text of two lists of texts is those of the one and of the other, side by side. -/
theorem squeeze_intercalate_append (ss ts : List Text) :
    squeeze ([' '].intercalate (ss ++ ts)) =
      (squeeze ([' '].intercalate ss)).beside (squeeze ([' '].intercalate ts)) := by
  rw [beside]
  simp only [squeeze_eq_nil_iff]
  simp only [squeeze, words_intercalate, List.flatMap_append]
  split
  next hs => rw [hs, List.nil_append]
  next hs =>
    split
    next ht => rw [ht, List.append_nil]
    next ht => exact intercalate_append ' ' hs ht

end Text

namespace Query

/-- A query and one that comes later: its qualifiers in place of the first ones, its free text after
the first one. -/
def overlay (q r : Query) : Query :=
  ⟨q.qualifiers.overlay r.qualifiers, q.freeText.beside r.freeText⟩

namespace Vocabulary

variable {names : List Text} {name value input : Text}

/-- **The query of tokens one after the other** is that of the first ones overlaid with that of the
second ones. -/
theorem ofTokens_append (v : Vocabulary) (tokens more : List Token) :
    v.ofTokens (tokens ++ more) = (v.ofTokens tokens).overlay (v.ofTokens more) := by
  have freeText : (v.ofTokens (tokens ++ more)).freeText =
      (v.ofTokens tokens).freeText.beside (v.ofTokens more).freeText := by
    rw [freeText_ofTokens, rest, List.filter_append, List.map_append, squeeze_intercalate_append]
    rfl
  rw [overlay, ← qualifiers_ofTokens_append, ← freeText]

/-! ### The names that are recognized -/

/-- **A vocabulary recognizes its names** in any case, but for the empty name and the key of the
free text. -/
theorem recognizes_ofNames_iff :
    (ofNames names).recognizes name = true ↔
      (∃ n ∈ names, lowercase n = lowercase name) ∧ lowercase name ≠ [] ∧
        lowercase name ≠ freeTextKey := by
  rw [recognizes, ofNames, SortedSet.contains_ofList, List.mem_filter, List.mem_map]
  simp

/-- A qualifier that the queries of a vocabulary can have. -/
structure CanSet (names : List Text) (name value : Text) : Prop where
  /-- The name is one of the vocabulary, in lower case. -/
  mem : ∃ n ∈ names, lowercase n = name
  /-- So it is recognized. -/
  recognized : (ofNames names).recognizes name = true
  /-- It is not the key of the free text. -/
  ne_key : name ≠ freeTextKey
  /-- The value is not empty. -/
  ne_nil : value ≠ []
  /-- It has no blanks at its ends. -/
  trimmed : trim value = value
  /-- It has no quotes. -/
  quote : '"' ∉ value

theorem IsPair.canSet (h : (ofNames names).IsPair name value) : CanSet names name value := by
  obtain ⟨hmem, -, hkey⟩ := recognizes_ofNames_iff.1 h.recognized
  rw [h.isLower] at hmem hkey
  exact ⟨hmem, h.recognized, hkey, h.ne_nil, h.isTrimmed, h.quote⟩

/-- **A raw query is read part by part**: blanks after a text whose quotes are closed part it in
two, and what is read is the first part overlaid with the second one.  The qualifiers are recognized
ones, each with a trimmed value. -/
theorem parse_overlay (names : List Text) :
    (∀ a w b, Even (a.count '"') → w ≠ [] → (∀ c ∈ w, isBlank c = true) →
      (ofNames names).parse (a ++ w ++ b) =
        ((ofNames names).parse a).overlay ((ofNames names).parse b)) ∧
      ∀ input name value, (name, value) ∈ ((ofNames names).parse input).qualifiers.toList →
        CanSet names name value := by
  constructor
  · intro a w b ha hne hw
    rw [parse_eq, lexLenient_append_blanks (isClosed_iff.2 ha) hne hw, ofTokens_append, ← parse_eq,
      ← parse_eq]
  · intro input name value h
    exact (isPair_of_mem h).canSet

/-- A query that sets a qualifier, with a phrase. -/
def firstPart : Text := "Year:2014 \"swift ui\"".toList

/-- A query that sets two, with a quote that stays open. -/
def secondPart : Text := "at:10:30 YEAR:\" 2015 \" \"layout".toList

/-- The later year stands. -/
theorem secondPart_parse_overlay :
    (ofNames ["Year".toList, "at".toList]).parse (firstPart ++ ['\t', ' '] ++ secondPart) =
        ((ofNames ["Year".toList, "at".toList]).parse firstPart).overlay
          ((ofNames ["Year".toList, "at".toList]).parse secondPart) ∧
      ((ofNames ["Year".toList, "at".toList]).parse secondPart).qualifiers.toList =
        [("at".toList, "10:30".toList), ("year".toList, "2015".toList)] ∧
      CanSet ["Year".toList, "at".toList] "year".toList "2015".toList := by
  have even : Even (firstPart.count '"') := by decide
  have blanks : ∀ c ∈ ['\t', ' '], isBlank c = true := by
    rw [List.forall_mem_cons, List.forall_mem_singleton]
    decide
  have toList : ((ofNames ["Year".toList, "at".toList]).parse secondPart).qualifiers.toList =
      [("at".toList, "10:30".toList), ("year".toList, "2015".toList)] := by decide
  have mem : ("year".toList, "2015".toList) ∈
      ((ofNames ["Year".toList, "at".toList]).parse secondPart).qualifiers.toList := by
    rw [toList]
    exact List.mem_cons_of_mem _ List.mem_cons_self
  obtain ⟨parts, qualifiers⟩ := parse_overlay ["Year".toList, "at".toList]
  exact ⟨parts firstPart _ secondPart even (by simp) blanks, toList, qualifiers _ _ _ mem⟩

end Vocabulary

end Query

end TranscriptSearch
