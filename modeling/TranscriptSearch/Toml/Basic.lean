import TranscriptSearch.Number.Binary64
import TranscriptSearch.Text.Basic

/-!
# Toml — values and tables

A table remembers how it came about, because that decides whether later lines may add to it: by
a header of its own, by the header of a table inside it, by a dotted key, or as a value in
braces. An array remembers whether it was made by headers in double brackets.

* `Toml.put?`: a table with a value at a dotted key.
* `Toml.openTable?`, `Toml.openElement?`: a document with one more header.
* `Toml.isReadable`: whether each number in a value is one that can be read.
-/

namespace TranscriptSearch

/-- How a table came about. -/
inductive Toml.TableKind where
  /-- By a header of its own; the whole document is such a table. -/
  | header
  /-- By the header of a table inside it. -/
  | implied
  /-- By a dotted key. -/
  | dotted
  /-- As a value in braces. -/
  | braces
deriving DecidableEq, Repr

/-- A value. -/
inductive Toml where
  /-- A string. -/
  | string (t : Text)
  /-- A whole number; nothing when its text only looks like one. -/
  | integer (n : Option Int)
  /-- A number with a point or an exponent; nothing when it is too large. -/
  | float (x : Option Number.Binary64)
  /-- A truth value. -/
  | boolean (b : Bool)
  /-- A date, a time of day or both. -/
  | datetime
  /-- An array, and whether it was made by headers. -/
  | array (isByHeaders : Bool) (elements : List Toml)
  /-- A table. -/
  | table (kind : Toml.TableKind) (entries : List (Text × Toml))
deriving Repr

namespace Toml

/-- The entries of a table. -/
abbrev Entries := List (Text × Toml)

/-- The value at a key. -/
def Entries.get? (es : Entries) (key : Text) : Option Toml := List.lookup key es

/-- The entries with a value at a key. -/
def Entries.set (es : Entries) (key : Text) (v : Toml) : Entries :=
  match es with
  | [] => [(key, v)]
  | (k, w) :: rest => if k = key then (k, v) :: rest else (k, w) :: Entries.set rest key v

/-- Whether a table was made on the way to another key. -/
def TableKind.isPassing : TableKind → Bool
  | .implied | .dotted => true
  | .header | .braces  => false

/-- A table at the end of a path from another table, changed. Tables that are missing on the
way are made. The way leads through the last table of an array made by headers and not into
braces, and a dotted key leads only through tables made on the way. -/
def change? (isDotted : Bool) (f : TableKind → Entries → Option (TableKind × Entries)) :
    List Text → TableKind → Entries → Option (TableKind × Entries)
  | [], kind, es => f kind es
  | key :: path, kind, es =>
    match es.get? key with
    | none => do
      let (k, inner) ← change? isDotted f path (if isDotted then .dotted else .implied) []
      return (kind, es.set key (.table k inner))
    | some (.table k inner) => do
      guard (k != .braces && (!isDotted || k.isPassing))
      let (k, inner) ← change? isDotted f path k inner
      return (kind, es.set key (.table k inner))
    | some (.array true elements) =>
      match elements.getLast? with
      | some (.table k inner) => do
        let (k, inner) ← change? isDotted f path k inner
        return (kind, es.set key (.array true (elements.dropLast ++ [.table k inner])))
      | _ => none
    | some _ => none

/-- A path from a table to a key. -/
structure Path where
  /-- The keys of the tables on the way. -/
  tables : List Text
  /-- The last key. -/
  key : Text
deriving DecidableEq, Repr

/-- The number of tables that a path may lead through. -/
def pathLimit : Nat := 80

/-- A new value at a key of a table. A dotted key adds only to a table made by dotted keys. -/
def add? (path : Path) (v : Toml) (kind : TableKind) (es : Entries) :
    Option (TableKind × Entries) := do
  guard ((kind == .dotted) == !path.tables.isEmpty && (es.get? path.key).isNone)
  return (kind, es.set path.key v)

/-- A table with a value at a dotted key. -/
def put? (path : Path) (v : Toml) (kind : TableKind) (es : Entries) :
    Option (TableKind × Entries) := do
  guard (path.tables.length < pathLimit)
  change? true (add? path v) path.tables kind es

/-- A document with a header. A table that exists must be one that was only implied. -/
def openTable? (path : Path) (es : Entries) : Option Entries := do
  guard (path.tables.length < pathLimit)
  let (_, es) ← change? false (fun kind es =>
    match es.get? path.key with
    | none => some (kind, es.set path.key (.table .header []))
    | some (.table .implied inner) => some (kind, es.set path.key (.table .header inner))
    | some _ => none) path.tables .header es
  return es

/-- A document with a header in double brackets. -/
def openElement? (path : Path) (es : Entries) : Option Entries := do
  guard (path.tables.length < pathLimit)
  let (_, es) ← change? false (fun kind es =>
    match es.get? path.key with
    | none => some (kind, es.set path.key (.array true [.table .header []]))
    | some (.array true elements) =>
      some (kind, es.set path.key (.array true (elements ++ [.table .header []])))
    | some _ => none) path.tables .header es
  return es

/-- Whether a whole number fits 128 bits, with a sign or without. -/
def fits (n : Int) : Bool := -(Nat.pow 2 127 : Nat) ≤ n && n < (Nat.pow 2 128 : Nat)

mutual

/-- Whether all numbers of a value can be read: whole numbers of 128 bits and numbers that are
not too large. -/
def isReadable : Toml → Bool
  | .integer n  => n.any fits
  | .float x    => x.isSome
  | .array _ es => areReadable es
  | .table _ es => entriesReadable es
  | _           => true

/-- Whether all elements are readable. -/
def areReadable : List Toml → Bool
  | []      => true
  | e :: es => isReadable e && areReadable es

/-- Whether all entries are readable. -/
def entriesReadable : List (Text × Toml) → Bool
  | []           => true
  | (_, v) :: es => isReadable v && entriesReadable es

end

end Toml

end TranscriptSearch
