import TranscriptSearch.Query.Basic
import TranscriptSearch.Query.Token

/-!
# Query — reading a raw query

Which names are qualifiers is decided by a vocabulary. A pair whose name is in the vocabulary
and whose value is not blank sets a qualifier; every other token adds to the free text, in the
order of the tokens.

* `Vocabulary.parse`: the query of any text.
* `Vocabulary.parseStrict`: the query of a text whose quotes are closed.
-/

namespace TranscriptSearch.Query

open Text

/-- The recognized qualifier names, in lower case. -/
structure Vocabulary where
  /-- The names. -/
  names : SortedSet Text
deriving DecidableEq

namespace Vocabulary

/-- The vocabulary of a list of names in any case. The empty name and the key of the free text
are left out. -/
def ofNames (names : List Text) : Vocabulary :=
  ⟨.ofList ((names.map lowercase).filter fun n => !n.isEmpty && n != freeTextKey)⟩

/-- Whether a name, in any case, is a qualifier. -/
def recognizes (v : Vocabulary) (name : Text) : Bool := v.names.contains (lowercase name)

/-- The qualifier that a token sets. -/
def qualifier? (v : Vocabulary) : Token → Option (Text × Text)
  | .qualifier name value _ =>
    if v.recognizes name && !(trim value).isEmpty then some (name, trim value) else none
  | _ => none

/-- The query of a list of tokens. -/
def ofTokens (v : Vocabulary) (tokens : List Token) : Query :=
  .ofParts (.ofList (tokens.filterMap v.qualifier?))
    ([' '].intercalate ((tokens.filter fun t => (v.qualifier? t).isNone).map Token.text))

/-- The query of a text. A quote that is never closed runs to the end of the text. -/
def parse (v : Vocabulary) (input : Text) : Query :=
  match lex input with
  | .ok tokens => v.ofTokens tokens
  | .error _ => v.ofTokens (lexLenient input)

/-- The query of a text, or the fault of a quote that is never closed. -/
def parseStrict (v : Vocabulary) (input : Text) : Except SyntaxError Query :=
  (lex input).map v.ofTokens

end Vocabulary

end TranscriptSearch.Query
