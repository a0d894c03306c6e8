import TranscriptSearch.Files.Path
import TranscriptSearch.SortedMap

/-!
# Files — a tree of files and directories

The files of a machine, each at its place. A place is the list of names on the way from the
root; the root is the empty list and always a directory. A path is looked up component by
component, and two dots lead back to the directory above. A component can be too long only where
a directory stands before it; a path as a whole can be too long wherever it leads.

* `FileTree.read`: the octets of a file.
* `FileTree.makeDirectories`: a directory with all directories above it.
* `FileTree.write`, `FileTree.rename`, `FileTree.removeFile`: changes of single files.
-/

namespace TranscriptSearch

/-- The names on the way from the root. -/
abbrev Place := List Text

instance : Std.TransOrd Place := inferInstance

/-- What stands at a place. -/
inductive Entry where
  /-- A file and its octets. -/
  | file (octets : List UInt8)
  /-- A directory. -/
  | directory
deriving DecidableEq, Repr

/-- Files and directories by place. -/
structure FileTree where
  /-- What stands below the root. -/
  entries : SortedMap Place Entry
deriving DecidableEq

/-- Why nothing could be done at a path. -/
inductive FileError where
  /-- There is nothing at the path. -/
  | notFound
  /-- There is something at the path already. -/
  | alreadyExists
  /-- A file stands where the path leads through. -/
  | notDirectory
  /-- A directory stands where a file should. -/
  | isDirectory
  /-- The path holds a zero character. -/
  | zeroCharacter
  /-- The path or one of its components is too long. -/
  | nameTooLong
  /-- The machine refused for a reason of its own. -/
  | refused
deriving DecidableEq, Repr

namespace FileTree

/-- Nothing but the root. -/
def empty : FileTree := ⟨.empty⟩

/-- What stands at a place. -/
def at? (t : FileTree) (place : Place) : Option Entry :=
  if place.isEmpty then some .directory else t.entries.get? place

/-- The place that components lead to from a directory. All but the last have to be there. -/
def walk (t : FileTree) (place : Place) : List Text → Except FileError Place
  | [] => .ok place
  | c :: rest =>
    match t.at? place with
    | none => .error .notFound
    | some (.file _) => .error .notDirectory
    | some .directory =>
      if Path.isTooLong c then .error .nameTooLong
      else t.walk (if c = ['.', '.'] then place.dropLast else place ++ [c]) rest

/-- The place that a path leads to. -/
def follow (t : FileTree) (p : Path) : Except FileError Place :=
  if p.contains '\x00' then .error .zeroCharacter
  else if Path.lengthLimit < p.utf8Length then .error .nameTooLong
  else t.walk [] p.components

/-- The place of a path and what stands there. A path that ends as a directory leads to no
file, and one that ends in a dot only to a directory that is there. -/
def locate (t : FileTree) (p : Path) : Except FileError (Place × Option Entry) :=
  match t.follow p with
  | .error e => .error e
  | .ok place =>
    match t.at? place with
    | some (.file octets) =>
      if p.endsAsDirectory then .error .notDirectory else .ok (place, some (.file octets))
    | some .directory => .ok (place, some .directory)
    | none => if p.endsInDot then .error .notFound else .ok (place, none)

/-- Whether there is a file at a path. -/
def isFile (t : FileTree) (p : Path) : Bool :=
  match t.locate p with
  | .ok (_, some (.file _)) => true
  | _ => false

/-- Whether there is a directory at a path. -/
def isDirectory (t : FileTree) (p : Path) : Bool :=
  match t.locate p with
  | .ok (_, some .directory) => true
  | _ => false

/-- The octets of the file at a path. -/
def read (t : FileTree) (p : Path) : Except FileError (List UInt8) :=
  match t.locate p with
  | .ok (_, some (.file octets)) => .ok octets
  | .ok (_, some .directory) => .error .isDirectory
  | .ok (_, none) => .error .notFound
  | .error e => .error e

/-- The tree with an entry at a place. -/
def set (t : FileTree) (place : Place) (e : Entry) : FileTree := ⟨t.entries.insert place e⟩

/-- The tree with a new directory at a path. -/
def makeDirectory (t : FileTree) (p : Path) : Except FileError FileTree :=
  match t.locate p with
  | .ok (place, none) => .ok (t.set place .directory)
  | .ok (_, some _) => .error .alreadyExists
  | .error e => .error e

/-- The tree with a new directory at a path, where a directory that is there is as good. -/
def ensureDirectory (t : FileTree) (p : Path) : Except FileError FileTree :=
  match t.makeDirectory p with
  | .ok t => .ok t
  | .error e => if t.isDirectory p then .ok t else .error e

/-- The tree with a directory at the first of some paths, each the parent of the one before.
The directories above are made first when they are missing. What was made before a failure
stays. -/
def makeUpward (t : FileTree) : List Path → FileTree × Except FileError Unit
  | [] => (t, .error .refused)
  | p :: above =>
    if p.isEmpty then (t, .ok ())
    else
      match t.ensureDirectory p with
      | .ok t => (t, .ok ())
      | .error .notFound =>
        match t.makeUpward above with
        | (t, .error e) => (t, .error e)
        | (t, .ok ()) =>
          match t.ensureDirectory p with
          | .ok t => (t, .ok ())
          | .error e => (t, .error e)
      | .error e => (t, .error e)

/-- The tree with a directory at a path and all directories above it. -/
def makeDirectories (t : FileTree) (p : Path) : FileTree × Except FileError Unit :=
  t.makeUpward p.ancestors

/-- The tree with a file at a path, in the place of a file that is there. -/
def write (t : FileTree) (p : Path) (octets : List UInt8) : Except FileError FileTree :=
  match t.locate p with
  | .ok (_, some .directory) => .error .isDirectory
  | .ok (place, _) =>
    if p.endsAsDirectory then .error .isDirectory else .ok (t.set place (.file octets))
  | .error e => .error e

/-- The tree without the file at a path. -/
def removeFile (t : FileTree) (p : Path) : Except FileError FileTree :=
  match t.locate p with
  | .ok (place, some (.file _)) => .ok ⟨t.entries.erase place⟩
  | .ok (_, some .directory) => .error .isDirectory
  | .ok (_, none) => .error .notFound
  | .error e => .error e

/-- The tree with the file of one path at another one, in the place of a file that is there. -/
def rename (t : FileTree) (source target : Path) : Except FileError FileTree :=
  match t.locate source, t.locate target with
  | .ok (_, some .directory), _ => .error .isDirectory
  | .ok (_, none), _ => .error .notFound
  | .error e, _ => .error e
  | .ok (_, some (.file _)), .error e => .error e
  | .ok (_, some (.file _)), .ok (_, some .directory) => .error .isDirectory
  | .ok (old, some (.file octets)), .ok (new, _) =>
    .ok (FileTree.set ⟨t.entries.erase old⟩ new (.file octets))

/-- The tree without what stands at a path and below it. -/
def remove (t : FileTree) (p : Path) : FileTree :=
  match t.locate p with
  | .ok (place, some _) =>
    ⟨⟨t.entries.toList.filter fun e => !place.isPrefixOf e.1, t.entries.ascending.filter _⟩⟩
  | _ => t

end FileTree

end TranscriptSearch
