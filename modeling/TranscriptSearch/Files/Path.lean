import TranscriptSearch.Text.Basic

/-!
# Files — paths

A path is the text that a user wrote. Nothing is cleaned up when paths are joined, so that the
text is shown as it was put together; what a path names is decided by its components alone.

* `Path.join`: a path inside another one.
* `Path.parent?`: a path without its last component.
* `Path.ancestors`: a path, its parent, the parent's parent, and so on.
* `Path.same`: whether two paths have the same components.
-/

namespace TranscriptSearch

/-- A path as it is written. -/
abbrev Path := Text

namespace Path

/-- The pieces of a text between slashes, of which there is always at least one. -/
def pieces : Text → List Text
  | [] => [[]]
  | c :: rest =>
    if c = '/' then [] :: pieces rest
    else
      match pieces rest with
      | [] => [[c]]
      | piece :: more => (c :: piece) :: more

/-- Whether a path starts at the root. -/
def isAbsolute (p : Path) : Bool := p.head? == some '/'

/-- Whether a piece says nothing: it is empty or a single dot. -/
def isVoid (piece : Text) : Bool := piece.isEmpty || piece == ['.']

/-- The components of a path, without those that say nothing. -/
def components (p : Path) : List Text := (pieces p).filter fun c => !isVoid c

/-- Whether a path begins with a single dot. -/
def startsWithDot (p : Path) : Bool := (pieces p).head? == some ['.']

/-- Whether a path ends in a way that only a directory can have. -/
def endsAsDirectory (p : Path) : Bool := (pieces p).getLast?.any isVoid

/-- Whether a path ends with a single dot, slashes after it aside. Such a path names no place of
its own. -/
def endsInDot (p : Path) : Bool :=
  ((pieces p).reverse.dropWhile List.isEmpty).head? == some ['.']

/-- How many octets a component may take. -/
def componentLimit : Nat := 255

/-- How many octets a path may take. -/
def lengthLimit : Nat := 4095

/-- Whether a component takes more octets than it may. -/
def isTooLong (component : Text) : Bool := componentLimit < component.utf8Length

/-- A path inside a directory; an absolute path stays as it is. -/
def join (dir p : Path) : Path :=
  if isAbsolute p then p
  else if dir.isEmpty || dir.getLast? == some '/' then dir ++ p
  else dir ++ ['/'] ++ p

/-- Whether two paths have the same components. -/
def same (p q : Path) : Bool :=
  isAbsolute p == isAbsolute q && startsWithDot p == startsWithDot q
    && components p == components q

/-- The part of a path that says where it starts. -/
def start (p : Path) : Text :=
  if isAbsolute p then ['/'] else if startsWithDot p then ['.'] else []

/-- Pieces without the void ones at their end. -/
def withoutVoidEnd (ps : List Text) : List Text := (ps.reverse.dropWhile isVoid).reverse

/-- The pieces after the start of a path, without the void ones at their end. -/
def steps (p : Path) : List Text := withoutVoidEnd (pieces (p.drop (start p).length))

/-- A path without its last component. A root has none, and neither has the empty path. -/
def parent? (p : Path) : Option Path :=
  if (steps p).isEmpty then if startsWithDot p then some [] else none
  else some (start p ++ ['/'].intercalate (withoutVoidEnd (steps p).dropLast))

/-- The first `n` of a path, its parent, the parent's parent, and so on. -/
def ancestorsUpTo : (n : Nat) → Path → List Path
  | 0, _ => []
  | n + 1, p =>
    p :: match parent? p with
      | some q => ancestorsUpTo n q
      | none => []

/-- A path, its parent, the parent's parent, and so on. Each is shorter than the one before. -/
def ancestors (p : Path) : List Path := ancestorsUpTo (p.length + 2) p

end Path

end TranscriptSearch
