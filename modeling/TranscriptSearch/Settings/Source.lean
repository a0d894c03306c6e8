import TranscriptSearch.Complaint
import TranscriptSearch.Settings.Basic
import TranscriptSearch.Text.Utf8
import TranscriptSearch.Toml.Statement

/-!
# Settings — settings files

A settings file sets some settings and leaves others open. Keys of other names are passed over
as long as their values can be read. A section is a table, or an array of its settings in their
order.

* `Source.parse?`: what the text of a settings file sets.
* `Source.load`: what a settings file sets.
-/

namespace TranscriptSearch

/-- What a file sets about the index. -/
structure IndexSource where
  /-- The directory of the index. -/
  directory : Option Path
  /-- The least length of a term. -/
  minTermLength : Option Nat
deriving DecidableEq, Repr

/-- What a file sets about queries. -/
structure SearchSource where
  /-- The qualifier names. -/
  qualifiers : Option (List Text)
deriving DecidableEq, Repr

/-- What a file sets. -/
structure Source where
  /-- Whether no other file counts beyond this one. -/
  isRoot : Option Bool
  /-- The section on the index. -/
  index : Option IndexSource
  /-- The section on queries. -/
  search : Option SearchSource
deriving DecidableEq, Repr

namespace Toml

/-- A string. -/
def text? : Toml → Option Text
  | .string t => some t
  | _         => none

/-- A truth value. -/
def bool? : Toml → Option Bool
  | .boolean b => some b
  | _          => none

/-- A whole number that is a length. -/
def length? : Toml → Option Nat
  | .integer (some (.ofNat n)) => if n < UInt64.size then some n else none
  | _                   => none

/-- One string, or an array of strings. -/
def texts? : Toml → Option (List Text)
  | .string t   => some [t]
  | .array _ es => es.mapM text?
  | _           => none

/-- The entries of a section with the given names, in their order; nothing if it is no section
or has entries that cannot be read. A date counts as a section without entries. -/
def section? (names : List String) : Toml → Option (List (Option Toml))
  | .table _ es =>
    if entriesReadable (es.filter fun e => !(names.map String.toList).contains e.1) then
      some (names.map fun n => Entries.get? es n.toList)
    else none
  | .array _ es => some (names.zipIdx.map fun n => es[n.2]?)
  | .datetime   => some (names.map fun _ => none)
  | _           => none

end Toml

/-- A value that may be missing but must be right when it is there. -/
def optionally (read : α → Option β) : Option α → Option (Option β)
  | none   => some none
  | some a => (read a).map some

namespace Source

/-- What a value sets about the index. -/
def index? (v : Toml) : Option IndexSource := do
  match ← Toml.section? ["dir", "min_token_len"] v with
  | [dir, len] => return ⟨← optionally Toml.text? dir, ← optionally Toml.length? len⟩
  | _ => none

/-- What a value sets about queries. -/
def search? (v : Toml) : Option SearchSource := do
  match ← Toml.section? ["qualifiers"] v with
  | [names] => return ⟨← optionally Toml.texts? names⟩
  | _ => none

/-- What the text of a settings file sets. -/
def parse? (t : Text) : Option Source := do
  let es ← Toml.read? t
  match ← Toml.section? ["root", "index", "search"] (.table .header es) with
  | [root, index, search] =>
    return ⟨← optionally Toml.bool? root, ← optionally index? index,
      ← optionally search? search⟩
  | _ => none

/-- Why a settings file sets nothing. -/
inductive LoadError where
  /-- The file cannot be read as text. -/
  | unreadable (path : Path) (words : Text)
  /-- The text does not follow its format. -/
  | malformed (path : Path)
deriving DecidableEq, Repr

/-- What is said of it. -/
def LoadError.complaint : LoadError → Complaint
  | .unreadable path words =>
    ⟨"failed to read config file ".toList ++ path ++ ": ".toList, some words⟩
  | .malformed path =>
    ⟨"failed to parse config file ".toList ++ path ++ ": ".toList, some malformedWords⟩

/-- What a settings file sets. -/
def load (files : FileTree) (path : Path) : Except LoadError Source :=
  match files.read path with
  | .error e => .error (.unreadable path e.words)
  | .ok octets =>
    match Text.decodeAll octets with
    | none => .error (.unreadable path notTextWords)
    | some t =>
      match parse? t with
      | none => .error (.malformed path)
      | some s => .ok s

end Source

end TranscriptSearch
