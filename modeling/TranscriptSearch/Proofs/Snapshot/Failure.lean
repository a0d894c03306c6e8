import TranscriptSearch.Proofs.Snapshot.Store

/-!
# Snapshot — a save that fails

A save that fails may leave a draft behind, and the directories that it made.  Neither is seen by
one who loads the snapshot, unless the path of the store's directory leads up again or is too long
for the machine where it was cut short before.

* `Store.DraftOnly`: nothing differs but the draft.
* `Store.of_save_error`: a save that fails changes nothing but the draft, once it has made the
  directories.
* `Store.load_of_save_error`: a load after it gives what a load before it gave.
-/

namespace TranscriptSearch

namespace Store

variable {s : Store} {refused : Refusals} {octets : List UInt8} {t u v : FileTree}

/-! ### Two trees that differ in the draft -/

/-- Nothing differs but what stands at the draft, and that is a directory in neither tree. -/
def DraftOnly (s : Store) (t u : FileTree) : Prop :=
  ∀ q, u.at? q = t.at? q ∨
    (t.follow s.draftPath = .ok q ∧ t.at? q ≠ some .directory ∧ u.at? q ≠ some .directory)

namespace DraftOnly

theorem refl (s : Store) (t : FileTree) : s.DraftOnly t t := fun _ => .inl rfl

theorem keeps (h : s.DraftOnly t u) : t.Keeps u := fun q hq => by
  obtain hu | ⟨-, hne, -⟩ := h q
  · rw [hu, hq]
  · exact absurd hq hne

theorem keeps_back (h : s.DraftOnly t u) : u.Keeps t := fun q hq => by
  obtain hu | ⟨-, -, hne⟩ := h q
  · rw [← hu, hq]
  · exact absurd hq hne

theorem trans (h : s.DraftOnly t u) (h' : s.DraftOnly u v) : s.DraftOnly t v := fun q => by
  obtain hv | ⟨hf, hu, hv⟩ := h' q
  · rw [hv]
    exact h q
  · exact .inr ⟨h.keeps_back.follow hf, fun ht => hu (h.keeps q ht), hv⟩

/-- Two such trees are the same, or the directory of the store is there and the draft in it. -/
theorem same_or_walk (h : s.DraftOnly t u) :
    (∀ q, u.at? q = t.at? q) ∨
      ∃ home, t.walk [] s.directory.components = .ok home ∧ t.at? home = some .directory ∧
        t.follow s.draftPath = .ok (home ++ [draftName]) := by
  by_cases hall : ∀ q, u.at? q = t.at? q
  · exact .inl hall
  · obtain ⟨d, hd⟩ := not_forall.1 hall
    obtain hsame | ⟨hdraft, -, -⟩ := h d
    · exact absurd hsame hd
    obtain ⟨home, hhome, hdir, rfl⟩ := of_follow_draftPath hdraft
    exact .inr ⟨home, hhome, hdir, hdraft⟩

/-- **The draft is not seen by one who reads the snapshot file.** -/
theorem read (h : s.DraftOnly t u) : u.read s.path = t.read s.path := by
  rw [FileTree.read_eq_lookAt s.endsAsDirectory_path s.endsInDot_path,
    FileTree.read_eq_lookAt s.endsAsDirectory_path s.endsInDot_path]
  suffices look : u.lookAt [] s.path.components = t.lookAt [] s.path.components by rw [look]
  rw [FileTree.lookAt, FileTree.lookAt]
  obtain hall | ⟨home, hhome, hdir, hdraft⟩ := h.same_or_walk
  · rw [FileTree.walk_congr hall]
    simp only [hall]
  · -- the path of the draft leads somewhere, and so does that of the file beside it
    have hlong : Path.isTooLong fileName = false := by decide
    have hpath : s.path.components = s.directory.components ++ [fileName] :=
      Path.components_join s.directory isName_fileName
    have hfile : u.at? (home ++ [fileName]) = t.at? (home ++ [fileName]) := by
      obtain hsame | ⟨hf, -, -⟩ := h (home ++ [fileName])
      · exact hsame
      · rw [hdraft] at hf
        exact absurd (Except.ok.inj hf).symm (file_ne_draft home)
    rw [hpath, FileTree.walk_concat fileName_ne_dots hlong hhome hdir,
      FileTree.walk_concat fileName_ne_dots hlong (h.keeps.walk hhome) (h.keeps home hdir)]
    simp only [hfile]

end DraftOnly

/-! ### The steps of a save -/

theorem draftOnly_write (h : t.write s.draftPath octets = .ok u) : s.DraftOnly t u := fun q => by
  obtain ⟨d, hf, hd, rfl⟩ := FileTree.of_write h
  rw [FileTree.at?_set (FileTree.ne_nil_of_not_directory hd)]
  split
  next hq => exact .inr ⟨hq ▸ hf, hq ▸ hd, nofun⟩
  next => exact .inl rfl

theorem draftOnly_removeFile (h : t.removeFile s.draftPath = .ok u) : s.DraftOnly t u := fun q => by
  obtain ⟨d, o, hf, hd, rfl⟩ := FileTree.of_removeFile h
  have hfree : t.at? d ≠ some .directory := by
    rw [hd]
    exact nofun
  rw [FileTree.at?_erase (FileTree.ne_nil_of_not_directory hfree)]
  split
  next hq => exact .inr ⟨hq ▸ hf, hq ▸ hfree, nofun⟩
  next => exact .inl rfl

theorem draftOnly_changed {r : Except FileError FileTree} (h : ∀ {u}, r = .ok u → s.DraftOnly t u) :
    s.DraftOnly t (changed t r).1 := by
  cases r with
  | error e => exact .refl s t
  | ok u => exact h rfl

/-- A step that is not done leaves the files as they are. -/
theorem attempt_error {step : DiskStep} (hstep : step ≠ .makeDirectory) {cause : FileError}
    (h : s.attempt octets t step = (u, some cause)) : u = t := by
  have of_changed_error :
      ∀ {r : Except FileError FileTree}, changed t r = (u, some cause) → u = t :=
    fun {r} hr => by
      cases r with
      | error e => exact (Prod.mk.inj hr).1.symm
      | ok v => cases hr
  cases step with
  | makeDirectory => exact absurd rfl hstep
  | create => exact of_changed_error h
  | write => exact of_changed_error h
  | rename => exact of_changed_error h
  | cleanUp => exact of_changed_error h
  | sync => cases h
  | read => cases h

/-- A step that is about the draft leaves nothing but the draft. -/
theorem draftOnly_attempt {step : DiskStep} (hmake : step ≠ .makeDirectory)
    (hrename : step ≠ .rename) (octets : List UInt8) (t : FileTree) :
    s.DraftOnly t (s.attempt octets t step).1 := by
  cases step with
  | makeDirectory => exact absurd rfl hmake
  | rename => exact absurd rfl hrename
  | create => exact draftOnly_changed draftOnly_write
  | write => exact draftOnly_changed draftOnly_write
  | cleanUp => exact draftOnly_changed draftOnly_removeFile
  | sync => exact .refl s t
  | read => exact .refl s t

/-- So do any number of such steps, done in part or all. -/
theorem draftOnly_perform {steps : List DiskStep}
    (h : ∀ step ∈ steps, step ≠ .makeDirectory ∧ step ≠ .rename) (octets : List UInt8)
    (t : FileTree) : s.DraftOnly t (s.perform refused octets steps t).1 := by
  induction steps generalizing t with
  | nil => exact .refl s t
  | cons step rest ih =>
      obtain ⟨⟨hmake, hrename⟩, hrest⟩ := List.forall_mem_cons.1 h
      have attempted := s.draftOnly_attempt hmake hrename octets t
      rw [perform]
      split
      · exact .refl s t
      split
      next v hv =>
        rw [hv] at attempted
        exact attempted.trans (ih hrest v)
      next hv => rwa [hv] at attempted

/-- Steps are done one after another, and a failure ends them. -/
theorem perform_append (steps rest : List DiskStep) (t : FileTree) :
    s.perform refused octets (steps ++ rest) t =
      match s.perform refused octets steps t with
      | (u, none)        => s.perform refused octets rest u
      | (u, some failed) => (u, some failed) := by
  induction steps generalizing t with
  | nil => rfl
  | cons step steps ih =>
      rw [List.cons_append, perform, perform]
      split
      · rfl
      split
      next v hv => exact ih v
      next => rfl

/-- **A failure after the directories were made** leaves nothing but the draft. -/
theorem draftOnly_of_perform {failed : DiskStep × FileError}
    (h : s.perform refused octets [.create, .write, .sync, .rename] t = (u, some failed)) :
    s.DraftOnly t u := by
  have drafted : s.DraftOnly t (s.perform refused octets [.create, .write, .sync] t).1 :=
    draftOnly_perform (by decide) octets t
  rw [show [DiskStep.create, .write, .sync, .rename] =
      [.create, .write, .sync] ++ [.rename] from rfl,
    perform_append] at h
  split at h
  next v hv =>
    rw [hv] at drafted
    rw [perform] at h
    split at h
    next =>
      cases h
      exact drafted
    split at h
    next => cases h
    next w cause hw =>
      obtain rfl := (Prod.mk.inj h).1
      rwa [attempt_error (by decide) hw]
  next v _ hv =>
    obtain rfl := (Prod.mk.inj h).1
    rwa [hv] at drafted

theorem draftOnly_cleanUp (s : Store) (refused : Refusals) (failed : DiskStep) (t : FileTree) :
    s.DraftOnly t (s.cleanUp refused failed t) := by
  rw [cleanUp]
  split
  · exact .refl s t
  · exact draftOnly_perform (by decide) [] t

/-- What the first step comes to: it is refused, or some directories are made and it fails, or the
other steps start from the directories that it made. -/
theorem of_perform_makeDirectory (s : Store) (refused : Refusals) (octets : List UInt8)
    (rest : List DiskStep) (t : FileTree) :
    (∃ failed, s.perform refused octets (.makeDirectory :: rest) t = (t, some failed)) ∨
      (∃ failed, s.perform refused octets (.makeDirectory :: rest) t =
        ((t.makeDirectories s.directory).1, some failed)) ∨
      s.perform refused octets (.makeDirectory :: rest) t =
        s.perform refused octets rest (t.makeDirectories s.directory).1 := by
  rw [perform]
  split
  · exact .inl ⟨_, rfl⟩
  rw [attempt]
  obtain ⟨made, result⟩ := t.makeDirectories s.directory
  cases result with
  | error cause => exact .inr (.inl ⟨_, rfl⟩)
  | ok _ => exact .inr (.inr rfl)

/-- **A failure at any step** leaves nothing but the draft, and the directories if it came to make
them. -/
theorem draftOnly_of_perform_saveSteps {failed : DiskStep × FileError}
    (h : s.perform refused octets saveSteps t = (u, some failed)) :
    s.DraftOnly t u ∨ s.DraftOnly (t.makeDirectories s.directory).1 u := by
  rw [saveSteps] at h
  obtain ⟨_, hfirst⟩ | ⟨_, hfirst⟩ | hrest :=
    s.of_perform_makeDirectory refused octets [.create, .write, .sync, .rename] t
  · obtain rfl := (Prod.mk.inj (hfirst.symm.trans h)).1
    exact .inl (.refl s _)
  · obtain rfl := (Prod.mk.inj (hfirst.symm.trans h)).1
    exact .inr (.refl s _)
  · exact .inr (draftOnly_of_perform (hrest.symm.trans h))

/-! ### A save that fails -/

variable {x : Snapshot} {cause : SnapshotError}

/-- **What a save that fails leaves behind**: the draft, and the directories if it came to make
them. -/
theorem of_save_error (h : s.save refused t x = (u, some cause)) :
    s.DraftOnly t u ∨ s.DraftOnly (t.makeDirectories s.directory).1 u := by
  rw [save] at h
  split at h
  next => cases h
  next w step fault hp =>
    obtain rfl : s.cleanUp refused step w = u := (Prod.mk.inj h).1
    have cleaned := s.draftOnly_cleanUp refused step w
    exact (draftOnly_of_perform_saveSteps hp).imp (·.trans cleaned) (·.trans cleaned)

/-- **A save that fails does not change the snapshot file**, if the path of the directory leads down
from where nothing is there. -/
theorem read_of_save_error (h : s.save refused t x = (u, some cause)) (ht : t.IsRooted)
    (hd : t.LeadsDown s.directory.components) : u.read s.path = t.read s.path := by
  obtain draft | draft := of_save_error h
  · exact draft.read
  · exact draft.read.trans
      (FileTree.read_makeUpward ht hd isName_fileName (by decide) fun _ => id)

/-- **A save that fails is not seen by a load.** -/
theorem load_of_save_error (h : s.save refused t x = (u, some cause)) (ht : t.IsRooted)
    (hd : t.LeadsDown s.directory.components) : s.load .none u = s.load .none t :=
  load_eq_of_read_eq (read_of_save_error h ht hd)

end Store

end TranscriptSearch
