import TranscriptSearch.SortedMap
import TranscriptSearch.Text.Alphanumeric
import TranscriptSearch.Text.Casing

/-!
# Terms

Lines and queries are compared by their terms: the maximal runs of alphanumeric characters, in
lower case, of which runs shorter than a least length are left out.

* `TermRule.terms`: the terms of a text, in order.
* `TermRule.next?`: the first term of a text and the text after it.
-/

namespace TranscriptSearch

open Text

/-- Which runs of alphanumeric characters are terms. -/
structure TermRule where
  /-- The least number of characters of a run. -/
  minLength : Nat
  /-- A run has at least one character. -/
  minLength_pos : 1 ≤ minLength
deriving DecidableEq

namespace TermRule

/-- The rule with a least length; zero counts as one. -/
def ofMinLength (n : Nat) : TermRule := ⟨max n 1, Nat.le_max_right n 1⟩

instance : Inhabited TermRule := ⟨ofMinLength 1⟩

/-- The terms of a text, in order. -/
def terms (r : TermRule) (t : Text) : List Text :=
  ((runs isAlphanumeric t).filter fun w => r.minLength ≤ w.length).map lowercase

/-- The distinct terms of a text. -/
def termSet (r : TermRule) (t : Text) : SortedSet Text := .ofList (r.terms t)

/-- The first term of a text and the text after it, when the run `back`, which is given back to
front, came before. -/
def nextAfter (r : TermRule) : (back : Text) → Text → Option (Text × Text)
  | back, [] => if r.minLength ≤ back.length then some (lowercase back.reverse, []) else none
  | back, c :: rest =>
    if isAlphanumeric c then nextAfter r (c :: back) rest
    else if r.minLength ≤ back.length then some (lowercase back.reverse, c :: rest)
    else nextAfter r [] rest

/-- The first term of a text and the text after it. -/
def next? (r : TermRule) (t : Text) : Option (Text × Text) := r.nextAfter [] t

end TermRule

end TranscriptSearch
