import TranscriptSearch.SortedMap
import TranscriptSearch.Text.Casing

/-!
# Query — qualifiers

The qualifiers of a query: a value for each name. Names are kept in lower case and looked up
in any case; a later value for a name replaces an earlier one.

* `Qualifiers.get?_insert`: what a look-up gives after an insertion.
-/

namespace TranscriptSearch.Query

open Text

/-- A value for each qualifier name, names in lower case. -/
structure Qualifiers where
  /-- The values by name. -/
  entries : SortedMap Text Text
deriving DecidableEq

namespace Qualifiers

/-- No qualifiers. -/
def empty : Qualifiers := ⟨.empty⟩

instance : Inhabited Qualifiers := ⟨empty⟩

/-- The qualifiers with a value for a name. -/
def insert (q : Qualifiers) (name value : Text) : Qualifiers :=
  ⟨q.entries.insert (lowercase name) value⟩

/-- The value for a name. -/
def get? (q : Qualifiers) (name : Text) : Option Text := q.entries.get? (lowercase name)

/-- Whether there is a value for a name. -/
def contains (q : Qualifiers) (name : Text) : Bool := (q.get? name).isSome

/-- The names and values, in the order of the names. -/
def toList (q : Qualifiers) : List (Text × Text) := q.entries.toList

/-- The number of qualifiers. -/
def size (q : Qualifiers) : Nat := q.entries.size

/-- Whether there are no qualifiers. -/
def isEmpty (q : Qualifiers) : Bool := q.entries.isEmpty

/-- The qualifiers of a list of pairs; of pairs with one name the last one stands. -/
def ofList (pairs : List (Text × Text)) : Qualifiers :=
  pairs.foldl (fun q p => q.insert p.1 p.2) empty

theorem get?_insert (q : Qualifiers) (name value a : Text) :
    (q.insert name value).get? a = if lowercase a = lowercase name then some value else q.get? a :=
  SortedMap.get?_insert q.entries (lowercase name) (lowercase a) value

end Qualifiers

end TranscriptSearch.Query
