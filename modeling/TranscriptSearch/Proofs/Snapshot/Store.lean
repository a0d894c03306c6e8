import TranscriptSearch.Snapshot.Store
import TranscriptSearch.Proofs.Files.Tree
import TranscriptSearch.Proofs.Index.Stored

/-!
# Snapshot — saving and loading

A snapshot is written to a draft, and the draft takes the place of the snapshot file.  After a
success the file holds what was written, and the next save will succeed as well unless something
else happens to the files.

* `Store.linked_of_load`: the index of a snapshot that was loaded is linked.
* `Store.load_ne_ok`, `Store.holdsFile_of_missing`: what a load says of the file.
* `Store.Stands`: the directory is there, and the file and its draft can be written.
* `Store.stands_of_perform`: what a success leaves.
* `Store.Stands.perform`: where the store stands, a save succeeds.
* `Store.accepts_of_save`: after a save that succeeds every save succeeds.
* `Store.load_of_save`: what is written is read.
-/

namespace TranscriptSearch

namespace Store

/-! ### Names -/

/-- The name of the snapshot file. -/
def fileName : Text := "snapshot.json".toList

/-- The name of the draft. -/
def draftName : Text := "snapshot.json.tmp".toList

theorem isName_fileName : Path.IsName fileName := by decide

theorem isName_draftName : Path.IsName draftName := by decide

theorem fileName_ne_dots : fileName ≠ ['.', '.'] := by decide

theorem draftName_ne_dots : draftName ≠ ['.', '.'] := by decide

theorem file_ne_draft (home : Place) : home ++ [fileName] ≠ home ++ [draftName] := fun e =>
  absurd (List.append_cancel_left e) (by decide)

theorem endsAsDirectory_path (s : Store) : s.path.endsAsDirectory = false :=
  Path.not_endsAsDirectory_join _ isName_fileName

theorem endsInDot_path (s : Store) : s.path.endsInDot = false :=
  Path.not_endsInDot_join _ isName_fileName

theorem endsAsDirectory_draftPath (s : Store) : s.draftPath.endsAsDirectory = false :=
  Path.not_endsAsDirectory_join _ isName_draftName

theorem endsInDot_draftPath (s : Store) : s.draftPath.endsInDot = false :=
  Path.not_endsInDot_join _ isName_draftName

/-! ### Loading -/

/-- What a record was when a snapshot was made of it. -/
theorem of_accept {s : Store} {r : SnapshotRecord} {x : Snapshot} (h : s.accept r = .ok x) :
    r.fingerprint = s.fingerprint ∧ x.fingerprint = r.fingerprint ∧
      r.content.index = .ok x.index := by
  rw [accept] at h
  split at h
  next => cases h
  split at h
  next => cases h
  next hf =>
    split at h
    next => cases h
    next y hy =>
      split at h <;> cases h
      exact ⟨not_not.1 hf, rfl, hy⟩

theorem of_ofOctets {s : Store} {octets : List UInt8} {x : Snapshot}
    (h : s.ofOctets octets = .ok x) :
    ∃ r, SnapshotRecord.read octets = .ok r ∧ s.accept r = .ok x := by
  rw [ofOctets] at h
  split at h
  next => cases h
  next r hr =>
    cases ha : s.accept r with
    | error e => rw [ha] at h; cases h
    | ok y => rw [ha] at h; cases h; exact ⟨r, hr, ha⟩

theorem of_load {s : Store} {refused : Refusals} {files : FileTree} {x : Snapshot}
    (h : s.load refused files = .ok x) :
    ∃ octets, files.read s.path = .ok octets ∧ s.ofOctets octets = .ok x := by
  rw [load] at h
  split at h
  next => cases h
  next => cases h
  next octets hread =>
    rw [read] at hread
    split at hread
    next => cases hread
    next => exact ⟨octets, hread, h⟩

/-- **What is loaded is linked.** -/
theorem linked_of_load {s : Store} {refused : Refusals} {files : FileTree} {x : Snapshot}
    (h : s.load refused files = .ok x) : x.index.Linked := by
  obtain ⟨octets, -, hoctets⟩ := of_load h
  obtain ⟨r, -, haccept⟩ := of_ofOctets hoctets
  exact Stored.linked_of_index (of_accept haccept).2.2

/-- A machine that does not refuse to read the file has no part in what is read. -/
theorem load_eq (s : Store) (refused : Refusals) (files : FileTree) :
    s.load refused files =
      if refused .read then .error (.error (.refused s.path .refused)) else s.load .none files := by
  rw [load, load, read, read]
  cases refused .read <;> rfl

theorem load_of_reads {s : Store} {refused : Refusals} {files : FileTree}
    (h : refused .read = false) : s.load refused files = s.load .none files := by
  rw [load_eq, h]
  rfl

/-- What is loaded although the machine refuses something is what there is to load. -/
theorem load_none_of_ok {s : Store} {refused : Refusals} {files : FileTree} {x : Snapshot}
    (h : s.load refused files = .ok x) : s.load .none files = .ok x := by
  rw [load_eq] at h
  split at h
  next => cases h
  next => exact h

theorem load_none_of_breakdown {s : Store} {refused : Refusals} {files : FileTree}
    {fault : Breakdown} (h : s.load refused files = .error (.breakdown fault)) :
    s.load .none files = .error (.breakdown fault) := by
  rw [load_eq] at h
  split at h
  next => cases h
  next => exact h

/-- Where a file can be read, a load depends on its octets. -/
theorem load_of_read {s : Store} {refused : Refusals} {files : FileTree} {octets : List UInt8}
    (h : files.read s.path = .ok octets) :
    s.load refused files =
      if refused .read then .error (.error (.refused s.path .refused)) else s.ofOctets octets := by
  rw [load, read]
  cases refused .read with
  | true => rfl
  | false => simp only [h, Bool.false_eq_true, if_false]

/-- A path that leads to a snapshot file reads it. -/
theorem read_of_at? {s : Store} {files : FileTree} {home : Place} {octets : List UInt8}
    (hpath : files.follow s.path = .ok (home ++ [fileName]))
    (hfile : files.at? (home ++ [fileName]) = some (.file octets)) :
    files.read s.path = .ok octets := by
  rw [FileTree.read_of_follow s.endsAsDirectory_path s.endsInDot_path hpath, hfile]

theorem load_eq_of_read_eq {s : Store} {refused : Refusals} {files files' : FileTree}
    (h : files'.read s.path = files.read s.path) :
    s.load refused files' = s.load refused files := by
  rw [load, load, read, read, h]

theorem load_ne_ok {s : Store} {refused : Refusals} {files : FileTree}
    (h : s.holdsFile files = false) (x : Snapshot) : s.load refused files ≠ .ok x := by
  intro hload
  obtain ⟨octets, hread, -⟩ := of_load hload
  have : s.holdsFile files = true := FileTree.isFile_iff.2 ⟨octets, hread⟩
  rw [h] at this
  cases this

/-- Octets are never told as missing. -/
theorem ofOctets_ne_missing (s : Store) (octets : List UInt8) (place : Path) :
    s.ofOctets octets ≠ .error (.error (.missing place)) := by
  intro h
  rw [ofOctets] at h
  split at h
  next fault _ => cases fault <;> cases h
  next r _ =>
    rw [accept] at h
    split at h
    next => cases h
    next =>
      split at h
      next => cases h
      next =>
        split at h
        next => cases h
        next => split at h <;> cases h

/-- **Only where there is no file a snapshot is missing.** -/
theorem holdsFile_of_missing {s : Store} {refused : Refusals} {files : FileTree} {place : Path}
    (h : s.load refused files = .error (.error (.missing place))) : s.holdsFile files = false := by
  rw [load, read] at h
  split at h
  next hread =>
    split at hread
    next => cases hread
    next =>
      rw [holdsFile, Bool.eq_false_iff, Ne, FileTree.isFile_iff]
      rintro ⟨octets, hoctets⟩
      cases hread.symm.trans hoctets
  next => cases h
  next octets _ => exact absurd h (s.ofOctets_ne_missing octets place)

/-! ### Where a store stands -/

/-- The directory of a store is there, and no other directory is in the way. -/
structure Stands (s : Store) (t : FileTree) (home : Place) : Prop where
  /-- The path of the directory leads to a place. -/
  directory : t.follow s.directory = .ok home
  /-- The directory is there. -/
  isDirectory : t.at? home = some .directory
  /-- The path of the snapshot file leads into it. -/
  path : t.follow s.path = .ok (home ++ [fileName])
  /-- So does the path of the draft. -/
  draft : t.follow s.draftPath = .ok (home ++ [draftName])
  /-- The snapshot file is not a directory. -/
  pathFree : t.at? (home ++ [fileName]) ≠ some .directory
  /-- Neither is the draft. -/
  draftFree : t.at? (home ++ [draftName]) ≠ some .directory

variable {s : Store} {refused : Refusals} {octets : List UInt8} {t u v : FileTree} {home : Place}

/-- The place that the path of the snapshot file leads to. -/
theorem eq_of_follow_path (hdir : t.follow s.directory = .ok home)
    (hhome : t.at? home = some .directory) {q : Place} (h : t.follow s.path = .ok q) :
    q = home ++ [fileName] :=
  FileTree.follow_join isName_fileName fileName_ne_dots hdir hhome h

/-- The place that the path of the draft leads to. -/
theorem eq_of_follow_draftPath (hdir : t.follow s.directory = .ok home)
    (hhome : t.at? home = some .directory) {q : Place} (h : t.follow s.draftPath = .ok q) :
    q = home ++ [draftName] :=
  FileTree.follow_join isName_draftName draftName_ne_dots hdir hhome h

/-- Where the path of the draft leads somewhere, the directory is there. -/
theorem of_follow_draftPath {q : Place} (h : t.follow s.draftPath = .ok q) :
    ∃ home, t.walk [] s.directory.components = .ok home ∧ t.at? home = some .directory ∧
      q = home ++ [draftName] := by
  have components : s.draftPath.components = s.directory.components ++ [draftName] :=
    Path.components_join s.directory isName_draftName
  have hwalk := FileTree.walk_of_follow h
  rw [components] at hwalk
  obtain ⟨home, hhome, hdir, hq⟩ := FileTree.of_walk_concat hwalk
  rw [if_neg draftName_ne_dots] at hq
  exact ⟨home, hhome, hdir, hq⟩

theorem Stands.write (h : s.Stands t home) (octets : List UInt8) :
    t.write s.draftPath octets = .ok (t.set (home ++ [draftName]) (.file octets)) :=
  FileTree.write_of_follow s.endsAsDirectory_draftPath s.endsInDot_draftPath h.draft h.draftFree _

theorem at?_draft (t : FileTree) (home : Place) (octets : List UInt8) :
    (t.set (home ++ [draftName]) (.file octets)).at? (home ++ [draftName]) =
      some (.file octets) := by
  rw [FileTree.at?_set (by simp), if_pos rfl]

/-- The store stands with a draft as well as without. -/
theorem Stands.set_draft (h : s.Stands t home) (octets : List UInt8) :
    s.Stands (t.set (home ++ [draftName]) (.file octets)) home := by
  have keeps := FileTree.keeps_set h.draftFree (.file octets)
  refine ⟨keeps.follow h.directory, keeps _ h.isDirectory, keeps.follow h.path,
    keeps.follow h.draft, ?_, ?_⟩
  · rw [FileTree.at?_set (by simp), if_neg (file_ne_draft home)]
    exact h.pathFree
  · rw [at?_draft]
    exact nofun

/-! ### The steps of a save -/

theorem perform_cons_eq_none {step : DiskStep} {rest : List DiskStep} :
    s.perform refused octets (step :: rest) t = (u, none) ↔
      refused step = false ∧ ∃ v, s.attempt octets t step = (v, none) ∧
        s.perform refused octets rest v = (u, none) := by
  rw [perform]
  cases refused step with
  | true => simp
  | false =>
      obtain ⟨v, result⟩ := s.attempt octets t step
      cases result <;> simp

theorem of_changed {r : Except FileError FileTree} (h : changed t r = (u, none)) : r = .ok u := by
  cases r <;> simp_all [changed]

/-- **What a success leaves.**  The store stands, and its file holds what was written. -/
theorem stands_of_perform (h : s.perform refused octets saveSteps t = (u, none)) :
    ∃ home, s.Stands u home ∧ u.at? (home ++ [fileName]) = some (.file octets) := by
  rw [saveSteps] at h
  obtain ⟨-, t₁, h₁, h⟩ := perform_cons_eq_none.1 h
  obtain ⟨-, t₂, h₂, h⟩ := perform_cons_eq_none.1 h
  obtain ⟨-, t₃, h₃, h⟩ := perform_cons_eq_none.1 h
  obtain ⟨-, t₄, h₄, h⟩ := perform_cons_eq_none.1 h
  obtain ⟨-, t₅, h₅, h⟩ := perform_cons_eq_none.1 h
  obtain rfl : t₅ = u := by cases h; rfl
  obtain rfl : t₃ = t₄ := by cases h₄; rfl
  -- the directory is there
  obtain ⟨home, hdir, hhome⟩ : ∃ home, t₁.follow s.directory = .ok home ∧
      t₁.at? home = some .directory := by
    have made : t.makeDirectories s.directory = (t₁, .ok ()) := by
      rw [attempt] at h₁
      split at h₁ <;> cases h₁
      assumption
    have hd := FileTree.isDirectory_of_makeDirectories (t := t) (p := s.directory) (by rw [made])
    rw [made] at hd
    exact FileTree.isDirectory_iff.1 hd
  -- the draft is made and filled
  obtain ⟨q, hq, hfree, rfl⟩ := FileTree.of_write (of_changed h₂)
  obtain rfl := eq_of_follow_draftPath hdir hhome hq
  have keeps₂ := FileTree.keeps_set hfree (.file [])
  obtain ⟨q, hq', hfree', rfl⟩ := FileTree.of_write (of_changed h₃)
  obtain rfl := eq_of_follow_draftPath (keeps₂.follow hdir) (keeps₂ _ hhome) hq'
  have keeps₃ := keeps₂.trans (FileTree.keeps_set hfree' (.file octets))
  -- the draft takes the place of the file
  obtain ⟨old, new, octets', hold, hat, hnew, keeps₅, hu⟩ := FileTree.of_rename (of_changed h₅)
  obtain rfl := eq_of_follow_draftPath (keeps₃.follow hdir) (keeps₃ _ hhome) hold
  obtain rfl := eq_of_follow_path (keeps₃.follow hdir) (keeps₃ _ hhome) hnew
  obtain rfl : octets = octets' := by
    rw [at?_draft] at hat
    cases hat
    rfl
  have keeps := keeps₃.trans keeps₅
  have file : t₅.at? (home ++ [fileName]) = some (.file octets) := by rw [hu, if_pos rfl]
  have draft : t₅.at? (home ++ [draftName]) = none := by
    rw [hu, if_neg (Ne.symm (file_ne_draft home)), if_pos rfl]
  refine ⟨home, ⟨keeps.follow hdir, keeps _ hhome, keeps₅.follow hnew, keeps₅.follow hold, ?_, ?_⟩,
    file⟩
  · rw [file]
    exact nofun
  · rw [draft]
    exact nofun

/-- **Where a store stands, a save succeeds.** -/
theorem Stands.perform (h : s.Stands t home) (octets : List UInt8) :
    ∃ u, s.perform .none octets saveSteps t = (u, none) := by
  have made : s.attempt octets t .makeDirectory = (t, none) := by
    have hd := FileTree.isDirectory_iff.2 ⟨home, h.directory, h.isDirectory⟩
    rw [attempt, FileTree.makeDirectories_of_isDirectory hd]
  have created : s.attempt octets t .create =
      (t.set (home ++ [draftName]) (.file []), none) := by
    rw [attempt, h.write]
    rfl
  have h₂ := h.set_draft []
  have written : s.attempt octets (t.set (home ++ [draftName]) (.file [])) .write =
      ((t.set (home ++ [draftName]) (.file [])).set (home ++ [draftName]) (.file octets),
        none) := by
    rw [attempt, h₂.write]
    rfl
  have h₃ := h₂.set_draft octets
  obtain ⟨u, renamed⟩ := FileTree.rename_of_follow s.endsAsDirectory_draftPath
    s.endsInDot_draftPath s.endsAsDirectory_path s.endsInDot_path h₃.draft (at?_draft _ home octets)
    h₃.path h₃.pathFree
  refine ⟨u, ?_⟩
  rw [saveSteps, perform_cons_eq_none]
  refine ⟨rfl, _, made, perform_cons_eq_none.2 ⟨rfl, _, created, ?_⟩⟩
  refine perform_cons_eq_none.2 ⟨rfl, _, written, perform_cons_eq_none.2 ⟨rfl, _, rfl, ?_⟩⟩
  refine perform_cons_eq_none.2 ⟨rfl, u, ?_, rfl⟩
  rw [attempt, renamed]
  rfl

/-! ### Saving and loading -/

variable {x : Snapshot}

theorem save_eq_none : s.save refused t x = (u, none) ↔
    s.perform refused x.octets saveSteps t = (u, none) := by
  rw [save]
  obtain ⟨v, result⟩ := s.perform refused x.octets saveSteps t
  cases result <;> simp

/-- Every save succeeds. -/
def Accepts (s : Store) (t : FileTree) : Prop := ∀ x, (s.save .none t x).2 = none

/-- Where the store stands, every save succeeds. -/
theorem Stands.accepts (h : s.Stands t home) : s.Accepts t := fun y => by
  obtain ⟨v, hv⟩ := h.perform y.octets
  rw [save_eq_none.2 hv]

/-- **After a save that succeeds every save succeeds.** -/
theorem accepts_of_save (h : s.save refused t x = (u, none)) : s.Accepts u := by
  obtain ⟨home, hstands, -⟩ := stands_of_perform (save_eq_none.1 h)
  exact hstands.accepts

/-- After a success the snapshot file holds what was written. -/
theorem read_of_perform (h : s.perform refused octets saveSteps t = (u, none)) :
    u.read s.path = .ok octets := by
  obtain ⟨home, hstands, hfile⟩ := stands_of_perform h
  exact read_of_at? hstands.path hfile

/-- **What is written is read.** -/
theorem load_of_save (h : s.save refused t x = (u, none)) :
    s.load .none u = s.ofOctets x.octets := by
  rw [load_of_read (read_of_perform (save_eq_none.1 h)), Refusals.none, if_neg Bool.false_ne_true]

end Store

end TranscriptSearch
