import TranscriptSearch.Proofs.Query.Vocabulary
import TranscriptSearch.Proofs.Text.LetterCase

/-!
# Query — the case of a raw query

A raw query can be folded before it is read or after.  Blanks, quotes and colons stay what they are,
so its tokens are those of the query, folded; names are recognized and kept in lower case, so a pair
sets the same qualifier, with its value folded.

* `Token.foldCase`, `Reading.foldCase`, `Query.foldCase`: what is read, with its ASCII letters in
  lower case.
* `Reading.step_foldCase`, `Reading.scan_foldCase`: one character, then a text.
* `lexLenient_foldCase`: the tokens of a folded query.
* `Vocabulary.parse_foldCase`: a folded query is the query, folded.
-/

namespace TranscriptSearch

namespace Query

open Text

/-- A token with its ASCII letters in lower case. -/
def Token.foldCase : Token → Token
  | .word t            => .word (Text.foldCase t)
  | .phrase t          => .phrase (Text.foldCase t)
  | .qualifier n v isQuoted => .qualifier (Text.foldCase n) (Text.foldCase v) isQuoted

/-- What is being read, with its ASCII letters in lower case. -/
def Reading.foldCase : Reading → Reading
  | .gap             => .gap
  | .word w          => .word (Text.foldCase w)
  | .colon n         => .colon (Text.foldCase n)
  | .value n v       => .value (Text.foldCase n) (Text.foldCase v)
  | .phrase p        => .phrase (Text.foldCase p)
  | .quotedValue n v => .quotedValue (Text.foldCase n) (Text.foldCase v)

theorem asciiLower_eq_quote (c : Char) : asciiLower c = '"' ↔ c = '"' :=
  asciiLower_eq_iff (by decide) c

theorem asciiLower_eq_colon (c : Char) : asciiLower c = ':' ↔ c = ':' :=
  asciiLower_eq_iff (by decide) c

namespace Reading

theorem start_foldCase (c : Char) : start (asciiLower c) = (start c).foldCase := by
  simp only [start, isBlank_asciiLower, asciiLower_eq_quote]
  split
  · rfl
  · split <;> rfl

/-- **One character.**  A folded reading takes a folded character as the reading takes the
character. -/
theorem step_foldCase (r : Reading) (c : Char) :
    r.foldCase.step (asciiLower c) = ((r.step c).1.map Token.foldCase, (r.step c).2.foldCase) := by
  cases r with
  | gap => rw [foldCase, step, step, start_foldCase]; rfl
  | word w =>
      simp only [foldCase, step, isBlank_asciiLower, asciiLower_eq_quote, asciiLower_eq_colon,
        start_foldCase]
      split
      · simp [Token.foldCase]
      · split <;> simp
  | colon n =>
      simp only [foldCase, step, isBlank_asciiLower, asciiLower_eq_quote]
      split
      · simp [Token.foldCase, show asciiLower ':' = ':' by decide]
      · split <;> simp
  | value n v =>
      simp only [foldCase, step, isBlank_asciiLower, asciiLower_eq_quote, start_foldCase]
      split
      · simp [Token.foldCase]
      · simp
  | phrase p =>
      simp only [foldCase, step, asciiLower_eq_quote]
      split
      · simp [Token.foldCase]
      · simp
  | quotedValue n v =>
      simp only [foldCase, step, asciiLower_eq_quote]
      split
      · simp [Token.foldCase]
      · simp

/-- **A text.**  The tokens that end in a folded text are those of the text, folded. -/
theorem scan_foldCase (r : Reading) (t : Text) :
    r.foldCase.scan (Text.foldCase t) =
      ((r.scan t).1.map Token.foldCase, (r.scan t).2.foldCase) := by
  induction t generalizing r with
  | nil => rfl
  | cons c t ih =>
      rw [foldCase_cons, scan, step_foldCase, ih, scan, List.map_append]
      cases (r.step c).1 <;> rfl

theorem finish_foldCase (r : Reading) : r.foldCase.finish = r.finish.map Token.foldCase := by
  cases r <;> simp [foldCase, finish, Token.foldCase, show asciiLower ':' = ':' by decide,
    show asciiLower '"' = '"' by decide]

end Reading

/-- **The tokens of a folded query** are those of the query, folded. -/
theorem lexLenient_foldCase (t : Text) :
    lexLenient (Text.foldCase t) = (lexLenient t).map Token.foldCase := by
  have gap : Reading.gap.scan (Text.foldCase t) = _ := Reading.gap.scan_foldCase t
  rw [lexLenient, gap, Reading.finish_foldCase, lexLenient, List.map_append]
  cases (Reading.gap.scan t).2.finish <;> rfl

theorem Token.text_foldCase (token : Token) : token.foldCase.text = Text.foldCase token.text := by
  cases token with
  | word t => rfl
  | phrase t => rfl
  | qualifier n v isQuoted =>
      cases isQuoted <;> simp [Token.foldCase, Token.text, show asciiLower ':' = ':' by decide,
        show asciiLower '"' = '"' by decide]

/-- A query with the ASCII letters of its values and of its free text in lower case. -/
def foldCase (q : Query) : Query :=
  ⟨⟨q.qualifiers.entries.mapValues Text.foldCase⟩, Text.foldCase q.freeText⟩

namespace Vocabulary

variable (v : Vocabulary)

theorem recognizes_foldCase (name : Text) :
    v.recognizes (Text.foldCase name) = v.recognizes name := by
  rw [recognizes, recognizes, lowercase_foldCase]

/-- A folded token sets the qualifier that the token sets, folded. -/
theorem qualifier?_foldCase (token : Token) :
    v.qualifier? token.foldCase =
      (v.qualifier? token).map fun p => (Text.foldCase p.1, Text.foldCase p.2) := by
  cases token with
  | word t => rfl
  | phrase t => rfl
  | qualifier n value isQuoted =>
      have blank : (Text.foldCase (trim value)).isEmpty = (trim value).isEmpty := by
        rw [Bool.eq_iff_iff, List.isEmpty_iff, List.isEmpty_iff, foldCase_eq_nil_iff]
      rw [Token.foldCase, qualifier?, qualifier?, recognizes_foldCase, trim_foldCase, blank]
      split <;> rfl

/-- The qualifiers of folded pairs are those of the pairs, with folded values. -/
theorem ofList_foldCase (pairs : List (Text × Text)) :
    Qualifiers.ofList (pairs.map fun p => (Text.foldCase p.1, Text.foldCase p.2)) =
      ⟨(Qualifiers.ofList pairs).entries.mapValues Text.foldCase⟩ := by
  have entries :=
    Qualifiers.entries_ofList (pairs.map fun p => (Text.foldCase p.1, Text.foldCase p.2))
  rw [List.map_map] at entries
  have names : pairs.map ((fun p => (lowercase p.1, p.2)) ∘
        fun p => (Text.foldCase p.1, Text.foldCase p.2)) =
      (pairs.map fun p => (lowercase p.1, p.2)).map fun e => (e.1, Text.foldCase e.2) := by
    rw [List.map_map]
    exact List.map_congr_left fun p _ => by simp [lowercase_foldCase]
  rw [names, SortedMap.ofList_map_values, ← Qualifiers.entries_ofList] at entries
  exact congrArg Qualifiers.mk entries

/-- A query of folded tokens is the query of the tokens, folded. -/
theorem ofTokens_foldCase (tokens : List Token) :
    v.ofTokens (tokens.map Token.foldCase) = (v.ofTokens tokens).foldCase := by
  have pairs : (tokens.map Token.foldCase).filterMap v.qualifier? =
      (tokens.filterMap v.qualifier?).map fun p => (Text.foldCase p.1, Text.foldCase p.2) := by
    rw [List.filterMap_map, List.map_filterMap]
    exact congrArg (List.filterMap · tokens) (funext v.qualifier?_foldCase)
  have rest : (tokens.map Token.foldCase).filter (fun t => (v.qualifier? t).isNone) =
      (tokens.filter fun t => (v.qualifier? t).isNone).map Token.foldCase := by
    rw [List.filter_map]
    refine congrArg (List.map Token.foldCase) (List.filter_congr fun t _ => ?_)
    rw [Function.comp, qualifier?_foldCase, Option.isNone_map]
  have texts :
      ((tokens.filter fun t => (v.qualifier? t).isNone).map Token.foldCase).map Token.text =
      ((tokens.filter fun t => (v.qualifier? t).isNone).map Token.text).map Text.foldCase := by
    rw [List.map_map, List.map_map]
    exact List.map_congr_left fun t _ => t.text_foldCase
  rw [ofTokens, pairs, ofList_foldCase, rest, texts, ofParts, ← foldCase_intercalate (by decide),
    squeeze_foldCase]
  rfl

/-- **A folded query is read as the query, folded.** -/
theorem parse_foldCase (raw : Text) : v.parse (Text.foldCase raw) = (v.parse raw).foldCase := by
  rw [parse_eq, lexLenient_foldCase, ofTokens_foldCase, ← parse_eq]

end Vocabulary

end Query

end TranscriptSearch
