import TranscriptSearch.Text.Basic

/-!
# Query — syntax errors

What is wrong with a query, where, and in which text. The long form shows the query with a
caret under the place.

* `SyntaxError.column?`: the characters before the place, by which the caret is indented.
* `SyntaxError.explain?`: the long form. A place inside a character has none.
-/

namespace TranscriptSearch.Query

open Text

/-- A fault in a query. -/
structure SyntaxError where
  /-- What is wrong. -/
  message : Text
  /-- The number of octets before the fault. -/
  position : Nat
  /-- The query. -/
  input : Text
deriving DecidableEq, Repr

namespace SyntaxError

/-- What is wrong when a quote has no partner. -/
def unclosedQuote : Text := "unclosed quote".toList

/-- How to mend the fault, where a way is known. -/
def suggestion (e : SyntaxError) : Option Text :=
  if holds unclosedQuote e.message then
    some "Add a closing quote (\") to complete the phrase".toList
  else none

/-- The number of characters before the fault; nothing when it is inside a character. -/
def column? (e : SyntaxError) : Option Nat := charsIn? e.position e.input

/-- The fault, the query, a caret under a column, and the hint if there is one. -/
def explainAt (e : SyntaxError) (column : Nat) : Text :=
  "query syntax error: ".toList ++ e.message ++ "\n  ".toList ++ e.input ++ "\n  ".toList
    ++ List.replicate column ' ' ++ ['^']
    ++ match e.suggestion with
      | some hint => "\nhint: ".toList ++ hint
      | none => []

/-- The fault, the query, a caret under the fault, and the hint if there is one. -/
def explain? (e : SyntaxError) : Option Text := e.column?.map e.explainAt

end SyntaxError

end TranscriptSearch.Query
