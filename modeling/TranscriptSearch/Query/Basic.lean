import TranscriptSearch.Query.Qualifiers
import TranscriptSearch.Text.Blank
import TranscriptSearch.Text.Quoted

/-!
# Query — queries

A query is a set of qualifiers and the free text that is left of the raw query, its words one
space apart.

* `Query.canonical`: a query as text that can be read again.
* `Query.describe`: a query as one line for each part.
-/

namespace TranscriptSearch

open Text

/-- Qualifiers and free text. -/
structure Query where
  /-- The recognized qualifiers. -/
  qualifiers : Query.Qualifiers
  /-- The rest of the raw query, its words one space apart. -/
  freeText : Text
deriving DecidableEq

namespace Query

/-- The key under which the free text is looked up. No qualifier has this name. -/
def freeTextKey : Text := "_query".toList

/-- The query of some qualifiers and a text with any blanks. -/
def ofParts (qualifiers : Qualifiers) (text : Text) : Query := ⟨qualifiers, squeeze text⟩

/-- The value of a qualifier, or the free text, if there is any, under its key. -/
def get? (q : Query) (key : Text) : Option Text :=
  if key = freeTextKey then (if q.freeText.isEmpty then none else some q.freeText)
  else q.qualifiers.get? key

/-- Whether a query asks for nothing. -/
def isEmpty (q : Query) : Bool := q.qualifiers.isEmpty && q.freeText.isEmpty

/-- A qualifier as it is written; a value with a blank in it needs quotes. -/
def canonicalPair (name value : Text) : Text :=
  if value.any isBlank then name ++ [':', '"'] ++ value ++ ['"'] else name ++ [':'] ++ value

/-- A query as text: the qualifiers in the order of their names, then the free text. -/
def canonical (q : Query) : Text :=
  [' '].intercalate (q.qualifiers.toList.map (fun p => canonicalPair p.1 p.2)
    ++ if q.freeText.isEmpty then [] else [q.freeText])

/-- A query as lines: each qualifier, then the free text, with quoted values. -/
def describe (q : Query) : Text :=
  (q.qualifiers.toList ++ [(freeTextKey, q.freeText)]).flatMap fun p =>
    p.1 ++ " = ".toList ++ quoted p.2 ++ ['\n']

end Query

end TranscriptSearch
