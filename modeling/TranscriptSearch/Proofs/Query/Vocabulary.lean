import TranscriptSearch.Proofs.Query.Token
import TranscriptSearch.Proofs.SortedMap
import TranscriptSearch.Proofs.Term
import TranscriptSearch.Proofs.Text.Casing
import TranscriptSearch.Query.Vocabulary

/-!
# Query — what a raw query is made into

Every token of a raw query either sets a qualifier or gives its words to the free text.

* `Vocabulary.parse_eq`: a query is made of the tokens of its text, whether its quotes are closed or
  not.
* `Vocabulary.isPair_of_mem`: the qualifiers that there are have lower-case names and trimmed
  values.
* `Vocabulary.words_freeText`: the words of the free text are those of the tokens that set none.
-/

namespace TranscriptSearch.Query

open Text

/-! ### Qualifiers -/

namespace Qualifiers

/-- The qualifiers of some pairs are the last values of their lower-case names. -/
theorem entries_ofList (pairs : List (Text × Text)) :
    (ofList pairs).entries = .ofList (pairs.map fun p => (lowercase p.1, p.2)) := by
  suffices entries : ∀ q : Qualifiers, (pairs.foldl (fun q p => q.insert p.1 p.2) q).entries =
      (pairs.map fun p => (lowercase p.1, p.2)).foldl (fun m p => m.insert p.1 p.2) q.entries from
    entries empty
  induction pairs with
  | nil => exact fun q => rfl
  | cons p pairs ih => exact fun q => ih _

/-- A qualifier is one of the pairs, its name in lower case. -/
theorem exists_of_mem_ofList {pairs : List (Text × Text)} {name value : Text}
    (h : (name, value) ∈ (ofList pairs).toList) : ∃ n, (n, value) ∈ pairs ∧ lowercase n = name := by
  rw [toList, entries_ofList, ← SortedMap.get?_eq_some_iff] at h
  obtain ⟨⟨n, w⟩, hp, he⟩ := List.mem_map.1 (SortedMap.mem_of_get?_ofList h)
  obtain ⟨rfl, rfl⟩ := Prod.mk.inj he
  exact ⟨n, hp, rfl⟩

/-- Qualifiers are those of their own names and values, if the names are in lower case. -/
theorem ofList_toList {q : Qualifiers} (h : ∀ p ∈ q.toList, lowercase p.1 = p.1) :
    ofList q.toList = q := by
  have same : q.toList.map (fun p => (lowercase p.1, p.2)) = q.toList := by
    refine (List.map_congr_left fun p hp => ?_).trans (List.map_id _)
    rw [h p hp]
    rfl
  have entries : (ofList q.toList).entries = q.entries := by
    rw [entries_ofList, same]
    exact SortedMap.ofList_toList q.entries
  cases q
  cases hq : ofList _
  simp_all

end Qualifiers

/-! ### Names -/

/-- A text of alphanumeric characters has none that a query treats apart. -/
theorem isName_of_isAlphanumeric {n : Text} (hne : n ≠ []) (h : ∀ c ∈ n, isAlphanumeric c = true) :
    IsName n := by
  have other : ∀ {c d : Char}, isAlphanumeric d = false → c ∈ n → c ≠ d := by
    rintro c d hd hc rfl
    rw [h c hc] at hd
    cases hd
  refine ⟨⟨hne, fun c hc => ⟨?_, other isAlphanumeric_quote hc⟩⟩, fun hcolon => ?_⟩
  · by_contra hblank
    rw [Bool.not_eq_false] at hblank
    exact other (isAlphanumeric_of_isBlank hblank) hc rfl
  · exact other (d := ':') (by decide) (List.mem_of_mem_tail hcolon) rfl

/-- The lower case of a name is a name. -/
theorem IsName.lowercase {n : Text} (h : IsName n) : IsName (lowercase n) := by
  obtain ⟨c, n, rfl⟩ := List.exists_cons_of_ne_nil h.ne_nil
  obtain ⟨d, rest, heq, hrest⟩ := exists_lowercase_cons c n
  refine ⟨⟨by simp [heq], fun e he => ?_⟩, fun hcolon => ?_⟩
  · obtain he | ⟨hblank, hquote, -⟩ := mem_lowercase he
    · exact h.solid e he
    · exact ⟨hblank, hquote⟩
  · rw [heq] at hcolon
    obtain hmem | ⟨-, -, hne⟩ := hrest _ hcolon
    · exact h.colon hmem
    · exact hne rfl

namespace Vocabulary

variable {v : Vocabulary} {token : Token} {name value : Text}

/-- Names are recognized in any case. -/
theorem recognizes_lowercase (v : Vocabulary) (name : Text) :
    v.recognizes (lowercase name) = v.recognizes name := by
  rw [recognizes, recognizes, lowercase_lowercase]

/-- **The qualifier that a token sets** is a pair with a recognized name and a value that is not
blank, trimmed. -/
theorem qualifier?_eq_some_iff : v.qualifier? token = some (name, value) ↔
    ∃ raw isQuoted, token = .qualifier name raw isQuoted ∧ v.recognizes name = true ∧
      raw.all isBlank = false ∧ trim raw = value := by
  cases token with
  | word w => simp [qualifier?]
  | phrase p => simp [qualifier?]
  | qualifier n raw isQuoted =>
      have blank : (trim raw).isEmpty = raw.all isBlank := by
        rw [Bool.eq_iff_iff, List.isEmpty_iff, trim_eq_nil_iff]
      rw [qualifier?, blank]
      constructor
      · intro h
        split at h
        next hcond =>
          rw [Bool.and_eq_true, Bool.not_eq_true'] at hcond
          obtain ⟨rfl, rfl⟩ := Prod.mk.inj (Option.some.inj h)
          exact ⟨raw, isQuoted, rfl, hcond.1, hcond.2, rfl⟩
        next => cases h
      · rintro ⟨raw', isQuoted', he, hname, hblank, rfl⟩
        obtain ⟨rfl, rfl, rfl⟩ := Token.qualifier.inj he
        rw [if_pos (by rw [hname, hblank]; rfl)]

/-- A token that sets no qualifier is no pair with a recognized name, or a blank one. -/
theorem qualifier?_eq_none_iff : v.qualifier? token = none ↔
    ∀ n raw isQuoted, token = .qualifier n raw isQuoted → v.recognizes n = true →
      raw.all isBlank = true := by
  rw [Option.eq_none_iff_forall_ne_some]
  constructor
  · intro h n raw isQuoted htoken hname
    by_contra hblank
    exact h (n, trim raw) (qualifier?_eq_some_iff.2
      ⟨raw, isQuoted, htoken, hname, Bool.not_eq_true _ ▸ hblank, rfl⟩)
  · rintro h ⟨n, value⟩ hsome
    obtain ⟨raw, isQuoted, htoken, hname, hblank, -⟩ := qualifier?_eq_some_iff.1 hsome
    rw [h n raw isQuoted htoken hname] at hblank
    cases hblank

/-- The tokens that set no qualifier. -/
def rest (v : Vocabulary) (tokens : List Token) : List Token :=
  tokens.filter fun token => (v.qualifier? token).isNone

theorem mem_rest {tokens : List Token} :
    token ∈ v.rest tokens ↔ token ∈ tokens ∧ v.qualifier? token = none := by
  rw [rest, List.mem_filter, Option.isNone_iff_eq_none]

/-- **A query is made of the tokens of its text**, whether its quotes are closed or not. -/
theorem parse_eq (v : Vocabulary) (input : Text) :
    v.parse input = v.ofTokens (lexLenient input) := by
  rw [parse]
  split
  next h =>
    rw [lex] at h
    split at h <;> cases h
    rfl
  next => rfl

theorem freeText_ofTokens (v : Vocabulary) (tokens : List Token) :
    (v.ofTokens tokens).freeText =
      squeeze ([' '].intercalate ((v.rest tokens).map Token.text)) := rfl

/-- **The words of the free text** are those of the tokens that set no qualifier. -/
theorem freeText_eq (v : Vocabulary) (tokens : List Token) :
    (v.ofTokens tokens).freeText =
      [' '].intercalate ((v.rest tokens).flatMap fun token => words token.text) := by
  rw [freeText_ofTokens, squeeze, words_intercalate, List.flatMap_map]

/-- **A word without a colon asks for itself.** -/
theorem parse_of_isName (v : Vocabulary) {n : Text} (h : IsName n) : v.parse n = ⟨.empty, n⟩ := by
  have tokens : lexLenient n = [.word n] := by
    rw [lexLenient, h.scan, Reading.finish, List.reverse_reverse]
    rfl
  rw [parse_eq, tokens, ofTokens]
  refine congrArg (Query.mk .empty) (Eq.trans ?_ h.isWord.squeeze)
  simp [qualifier?, Token.text]

/-! ### Pairs -/

/-- A name and a value that a query can have. -/
structure IsPair (v : Vocabulary) (name value : Text) : Prop where
  /-- The name can stand before a colon. -/
  isName : IsName name
  /-- It is in lower case. -/
  isLower : lowercase name = name
  /-- It is recognized. -/
  recognized : v.recognizes name = true
  /-- The value has no blanks at its ends. -/
  isTrimmed : trim value = value
  /-- It is not empty. -/
  ne_nil : value ≠ []
  /-- It has no quotes. -/
  quote : '"' ∉ value

/-- The pair that a sound token sets. -/
theorem isPair_of_qualifier? (htoken : token.IsSound ∨ token.IsUnclosed)
    (h : v.qualifier? token = some (name, value)) : v.IsPair (lowercase name) value := by
  obtain ⟨raw, isQuoted, rfl, hname, hblank, rfl⟩ := qualifier?_eq_some_iff.1 h
  have parts : IsName name ∧ '"' ∉ raw := by
    obtain hsound | ⟨n, w, -, -, hword⟩ := htoken
    · cases isQuoted with
      | true => exact hsound
      | false => exact ⟨hsound.1, fun hquote => (hsound.2.solid _ hquote).2 rfl⟩
    · cases hword
  refine ⟨parts.1.lowercase, lowercase_lowercase name, ?_, trim_trim raw, ?_, fun hquote => ?_⟩
  · rw [recognizes_lowercase, hname]
  · intro hnil
    rw [trim_eq_nil_iff.1 hnil] at hblank
    cases hblank
  · exact parts.2 (mem_of_mem_trim hquote)

/-- **The qualifiers of a query** have lower-case names and trimmed values. -/
theorem isPair_of_mem {input : Text} (h : (name, value) ∈ (v.parse input).qualifiers.toList) :
    v.IsPair name value := by
  rw [parse_eq] at h
  obtain ⟨n, hmem, rfl⟩ := Qualifiers.exists_of_mem_ofList h
  obtain ⟨token, htoken, hsome⟩ := List.mem_filterMap.1 hmem
  exact isPair_of_qualifier? (of_mem_lexLenient htoken) hsome

end Vocabulary

end TranscriptSearch.Query
