import TranscriptSearch.Proofs.Query.Vocabulary

/-!
# Query — canonical texts

A query is written so that its pairs and the tokens of its free text are read again, each as it is
or squeezed.  Phrases alone are not: they lose their quotes, and a pair in a phrase is a pair of its
own when it is read again.

* `lexLenient_canonical`: the tokens of a canonical text.
* `Vocabulary.lexLenient_freeText`: the tokens of a free text are those of the squeezed tokens.
* `Vocabulary.parse_canonical`: the canonical text of a query is read as the query, unless a phrase
  holds a recognized pair; a canonical text of a canonical text always is.
-/

namespace TranscriptSearch.Query

open Text

variable {v : Vocabulary} {token : Token} {name value : Text}

/-! ### The tokens of a canonical text -/

/-- A pair is written as one token that sets it. -/
theorem Vocabulary.IsPair.lexLenient_canonicalPair (h : v.IsPair name value) :
    lexLenient (canonicalPair name value) = [.qualifier name value (value.any isBlank)] ∧
      IsClosed (canonicalPair name value) := by
  have text : canonicalPair name value = (Token.qualifier name value (value.any isBlank)).text := by
    rw [canonicalPair]
    cases value.any isBlank <;> simp [Token.text]
  have sound : (Token.qualifier name value (value.any isBlank)).IsSound := by
    cases hany : value.any isBlank with
    | true => exact ⟨h.isName, h.quote⟩
    | false =>
        refine ⟨h.isName, h.ne_nil, fun c hc => ⟨?_, ?_⟩⟩
        · simpa using List.any_eq_false.1 hany c hc
        · rintro rfl
          exact h.quote hc
  rw [text]
  exact sound.lexLenient_text (by simp)

/-- **The tokens of a canonical text** are the pairs of the query and those of its free text. -/
theorem lexLenient_canonical {q : Query} (hq : ∀ p ∈ q.qualifiers.toList, v.IsPair p.1 p.2) :
    lexLenient q.canonical =
      (q.qualifiers.toList.map fun p => .qualifier p.1 p.2 (p.2.any isBlank)) ++
        lexLenient q.freeText := by
  have closed : ∀ t ∈ q.qualifiers.toList.map (fun p => canonicalPair p.1 p.2), IsClosed t := by
    intro t ht
    obtain ⟨p, hp, rfl⟩ := List.mem_map.1 ht
    exact (hq p hp).lexLenient_canonicalPair.2
  have pairs : ∀ p ∈ q.qualifiers.toList, lexLenient (canonicalPair p.1 p.2) =
      [.qualifier p.1 p.2 (p.2.any isBlank)] := by
    intro p hp
    exact (hq p hp).lexLenient_canonicalPair.1
  rw [canonical, lexLenient_intercalate closed (by split <;> simp), List.flatMap_append,
    List.flatMap_map, List.flatMap_congr pairs, ← List.map_eq_flatMap]
  congr 1
  cases q.freeText <;> simp

/-! ### The tokens of a free text -/

/-- The tokens that are read of a text when it is squeezed. -/
def squeezed (token : Token) : List Token := lexLenient (squeeze token.text)

theorem flatMap_filter_ne_nil (ts : List Text) :
    (ts.filter fun t => t ≠ []).flatMap lexLenient = ts.flatMap lexLenient := by
  induction ts with
  | nil => rfl
  | cons t ts ih => cases t <;> simp_all

/-- **The tokens of a free text** are those of the squeezed tokens that it is made of. -/
theorem Vocabulary.lexLenient_freeText (v : Vocabulary) (input : Text) :
    lexLenient (v.parse input).freeText = (v.rest (lexLenient input)).flatMap squeezed := by
  obtain ⟨tokens, last, hlex, hlast, hsound, -⟩ := of_lexLenient input
  -- the squeezed texts that are not empty, of the tokens that are closed and of the last one
  let texts (tokens : List Token) : List Text :=
    ((v.rest tokens).map fun token => squeeze token.text).filter fun t => t ≠ []
  have closed : ∀ t ∈ texts tokens, IsClosed t := by
    intro t ht
    obtain ⟨token, htoken, rfl⟩ := List.mem_map.1 (List.mem_of_mem_filter ht)
    exact (hsound token (mem_rest.1 htoken).1).isClosed_squeeze
  have short : (texts last).length ≤ 1 := by
    refine le_trans (List.length_filter_le _ _) ?_
    rw [List.length_map]
    exact le_trans (List.length_filter_le _ _) hlast
  have both : texts (tokens ++ last) = texts tokens ++ texts last := by
    simp only [texts, rest, List.filter_append, List.map_append]
  calc lexLenient (v.parse input).freeText
      = lexLenient ([' '].intercalate (texts tokens ++ texts last)) := by
        rw [parse_eq, freeText_ofTokens, squeeze_intercalate, List.map_map, ← both, hlex]
        rfl
    _ = (texts (tokens ++ last)).flatMap lexLenient := by
        rw [lexLenient_intercalate closed short, both]
    _ = (v.rest (lexLenient input)).flatMap squeezed := by
        rw [flatMap_filter_ne_nil, List.flatMap_map, hlex]
        rfl

/-- A squeezed token sets no qualifier if the token sets none, and its own tokens set none if it is
a phrase. -/
theorem Vocabulary.qualifier?_squeezed (htoken : token.IsSound ∨ token.IsUnclosed)
    (h : v.qualifier? token = none)
    (hphrase : ∀ p, token = .phrase p → ∀ other ∈ lexLenient p, v.qualifier? other = none) :
    ∀ other ∈ squeezed token, v.qualifier? other = none := by
  intro other hother
  by_cases hp : ∃ p, token = .phrase p
  · obtain ⟨p, rfl⟩ := hp
    rw [squeezed, Token.text, lexLenient_squeeze (Token.quote_not_mem htoken)] at hother
    exact hphrase p rfl other hother
  · rw [not_exists] at hp
    obtain ⟨one, hlex, -, hresembles, -⟩ := Token.exists_squeezed htoken hp
    rw [squeezed, hlex] at hother
    obtain rfl := List.mem_singleton.1 hother
    obtain rfl | ⟨w, w', rfl, rfl⟩ | ⟨n, raw, raw', rfl, rfl, hcondenses⟩ := hresembles
    · exact h
    · rfl
    · -- a value is blank only together with the condensed one
      rw [qualifier?_eq_none_iff] at h ⊢
      intro m value isQuoted he hname
      obtain ⟨rfl, rfl, rfl⟩ := Token.qualifier.inj he
      rw [hcondenses.blank]
      exact h _ _ _ rfl hname

/-! ### Canonical texts are read again -/

namespace Vocabulary

/-- The query of some pairs and of tokens that set no qualifier. -/
theorem ofTokens_pairs {q : Qualifiers} (hq : ∀ p ∈ q.toList, v.IsPair p.1 p.2)
    {tokens : List Token} (htokens : ∀ token ∈ tokens, v.qualifier? token = none) :
    v.ofTokens ((q.toList.map fun p => .qualifier p.1 p.2 (p.2.any isBlank)) ++ tokens) =
      ⟨q, [' '].intercalate (tokens.flatMap fun token => words token.text)⟩ := by
  have sets : ∀ p ∈ q.toList, v.qualifier? (.qualifier p.1 p.2 (p.2.any isBlank)) = some p := by
    intro p hp
    have pair := hq p hp
    refine qualifier?_eq_some_iff.2 ⟨p.2, _, rfl, pair.recognized, ?_, pair.isTrimmed⟩
    rw [← Bool.not_eq_true, ← trim_eq_nil_iff, pair.isTrimmed]
    exact pair.ne_nil
  have qualifiers : ((q.toList.map fun p => Token.qualifier p.1 p.2 (p.2.any isBlank)) ++
      tokens).filterMap v.qualifier? = q.toList := by
    rw [List.filterMap_append, List.filterMap_eq_nil_iff.2 htokens, List.append_nil,
      List.filterMap_map]
    exact (List.filterMap_congr sets).trans List.filterMap_some
  have left : v.rest ((q.toList.map fun p => .qualifier p.1 p.2 (p.2.any isBlank)) ++ tokens) =
      tokens := by
    rw [rest, List.filter_append, List.filter_eq_nil_iff.2, List.nil_append, List.filter_eq_self]
    · intro token htoken
      simp [htokens token htoken]
    · intro token htoken
      obtain ⟨p, hp, rfl⟩ := List.mem_map.1 htoken
      simp [sets p hp]
  have text :=
    v.freeText_eq ((q.toList.map fun p => .qualifier p.1 p.2 (p.2.any isBlank)) ++ tokens)
  rw [left] at text
  rw [← text, ofTokens, qualifiers, Qualifiers.ofList_toList fun p hp => (hq p hp).isLower]
  rfl

/-- A pair alone is read from its canonical text. -/
theorem parse_canonicalPair (h : v.IsPair name value) :
    v.parse (canonicalPair name value) = ⟨.ofList [(name, value)], []⟩ := by
  have only : (Qualifiers.ofList [(name, value)]).toList = [(name, value)] := by
    rw [Qualifiers.toList, Qualifiers.entries_ofList, List.map_singleton, h.isLower]
    rfl
  have pairs : ∀ p ∈ (Qualifiers.ofList [(name, value)]).toList, v.IsPair p.1 p.2 := by
    rw [only]
    intro p hp
    obtain rfl := List.mem_singleton.1 hp
    exact h
  have free : ∀ token ∈ ([] : List Token), v.qualifier? token = none := by simp
  have tokens := ofTokens_pairs pairs free
  rw [only] at tokens
  rw [parse_eq, h.lexLenient_canonicalPair.1]
  exact tokens

/-- The canonical text of a query is read as the query, if no token of the free text sets a
qualifier when it is squeezed. -/
theorem parse_canonical_of_squeezed {input : Text}
    (h : ∀ token ∈ v.rest (lexLenient input), ∀ other ∈ squeezed token, v.qualifier? other = none) :
    v.parse (v.parse input).canonical = v.parse input := by
  have pairs : ∀ p ∈ (v.parse input).qualifiers.toList, v.IsPair p.1 p.2 := fun p hp =>
    isPair_of_mem hp
  have none :
      ∀ token ∈ (v.rest (lexLenient input)).flatMap squeezed, v.qualifier? token = none := by
    intro other hother
    obtain ⟨token, htoken, hother⟩ := List.mem_flatMap.1 hother
    exact h token htoken other hother
  have same : ∀ token ∈ v.rest (lexLenient input),
      (squeezed token).flatMap (fun other => words other.text) = words token.text := by
    intro token htoken
    exact (Token.of_squeezed (of_mem_lexLenient (mem_rest.1 htoken).1)).1
  rw [parse_eq v (v.parse input).canonical, lexLenient_canonical pairs, lexLenient_freeText,
    ofTokens_pairs pairs none, List.flatMap_assoc, List.flatMap_congr same, ← freeText_eq,
    ← parse_eq]

/-- A canonical text has no phrases. -/
theorem ne_phrase_of_mem_canonical {input : Text}
    (h : token ∈ lexLenient (v.parse input).canonical) (p : Text) : token ≠ .phrase p := by
  rw [lexLenient_canonical (v := v) fun p hp => isPair_of_mem hp, lexLenient_freeText] at h
  rcases List.mem_append.1 h with h | h
  · obtain ⟨pair, -, rfl⟩ := List.mem_map.1 h
    simp
  · obtain ⟨other, hother, h⟩ := List.mem_flatMap.1 h
    exact (Token.of_squeezed (of_mem_lexLenient (mem_rest.1 hother).1)).2 token h p

/-- **A canonical text is faithful.**  The canonical text of a query is read as the query, if no
phrase of the text that it was made from has a recognized pair among its own tokens.  The canonical
text of a canonical text is always read as the query that it was made from. -/
theorem parse_canonical (v : Vocabulary) (input : Text) :
    ((∀ p, .phrase p ∈ lexLenient input → ∀ name value isQuoted,
        .qualifier name value isQuoted ∈ lexLenient p → v.recognizes name = false) →
      v.parse (v.parse input).canonical = v.parse input) ∧
    v.parse (v.parse (v.parse input).canonical).canonical = v.parse (v.parse input).canonical := by
  constructor
  · intro h
    refine parse_canonical_of_squeezed fun token htoken => ?_
    obtain ⟨hmem, hnone⟩ := mem_rest.1 htoken
    refine qualifier?_squeezed (of_mem_lexLenient hmem) hnone ?_
    rintro p rfl other hother
    rw [qualifier?_eq_none_iff]
    rintro n raw isQuoted rfl hname
    rw [h p hmem n raw isQuoted hother] at hname
    cases hname
  · refine parse_canonical_of_squeezed fun token htoken => ?_
    obtain ⟨hmem, hnone⟩ := mem_rest.1 htoken
    refine qualifier?_squeezed (of_mem_lexLenient hmem) hnone fun p hp => ?_
    exact absurd hp (ne_phrase_of_mem_canonical hmem p)

/-- The vocabulary of the years. -/
def ofYear : Vocabulary := ofNames ["year".toList]

/-- A query with a pair to be trimmed, a pair with an unknown name, a phrase and an open quote. -/
def mixed : Text := "YEAR:\" 2015 \" foo:\"a  b\"\"big  talk\" track:\"open  space".toList

theorem mixed_parse_canonical :
    (ofYear.parse mixed).canonical =
        "year:2015 foo:\"a b\" big talk track:\"open space".toList ∧
      ofYear.parse (ofYear.parse mixed).canonical = ofYear.parse mixed := by
  refine ⟨by decide, (ofYear.parse_canonical mixed).1 ?_⟩
  have tokens : lexLenient mixed = [.qualifier "YEAR".toList " 2015 ".toList true,
      .qualifier "foo".toList "a  b".toList true, .phrase "big  talk".toList,
      .word "track:\"open  space".toList] := by decide
  have inside : lexLenient "big  talk".toList = [.word "big".toList, .word "talk".toList] := by
    decide
  intro p hp name value isQuoted h
  simp only [tokens, List.mem_cons, Token.phrase.injEq, reduceCtorEq, false_or, or_false,
    List.not_mem_nil] at hp
  rw [hp, inside] at h
  simp at h

/-- A pair in a phrase is a qualifier when it is read again. -/
example : ofYear.parse (ofYear.parse "\"year:2015\"".toList).canonical ≠
    ofYear.parse "\"year:2015\"".toList := by decide

end Vocabulary

end TranscriptSearch.Query
