import TranscriptSearch.Proofs.Index.Attainable
import TranscriptSearch.Proofs.Snapshot.Failure
import TranscriptSearch.Proofs.Snapshot.Record

/-!
# Snapshot — a save is atomic

Wherever a save fails, or the process that saves stops, one who loads afterwards finds all of the
new snapshot or all of what was there.  The draft is filled piece by piece and may be left behind
with any part of it, but nobody reads the draft.

* `Store.Passes`: the files that a save may leave when it is cut short; it ends with such files too
  (`Store.passes_save`).
* `Store.Passes.read`: the snapshot file is at all times the old one or the new one.
* `Snapshot.answer`: what a written snapshot is to a store with some fingerprint.
* `Store.save_atomic`: what is saved is loaded, and a save is done or not done.
* `Store.save_uncovers`: a save that fails may have made a directory that a path leads through.
-/

namespace TranscriptSearch

/-- What a written snapshot is to one who wants it for the settings with some fingerprint. -/
def Snapshot.answer (x : Snapshot) (fingerprint : Text) : Except LoadFailure Snapshot :=
  if fingerprint = x.fingerprint then .ok x.truncated
  else .error (.error (.stale x.fingerprint fingerprint))

namespace Store

/-- What a load for each fingerprint gives in a directory. -/
def loads (directory : Path) (files : FileTree) (fingerprint : Text) :
    Except LoadFailure Snapshot :=
  (Store.mk directory fingerprint).load .none files

variable {s : Store} {refused : Refusals} {t u : FileTree} {x : Snapshot}

/-! ### What is written -/

/-- The octets of a snapshot hold it for its own fingerprint, and are stale for any other one. -/
theorem ofOctets_octets_eq_answer (hl : x.index.Linked) (hx : x.index.Storable) (d : Path)
    (fingerprint : Text) : (Store.mk d fingerprint).ofOctets x.octets = x.answer fingerprint := by
  rw [ofOctets_octets_of_storable hl hx, Snapshot.answer]
  exact if_congr eq_comm rfl rfl

/-- What is loaded depends on the snapshot file only. -/
theorem loads_congr (h : u.read s.path = t.read s.path) :
    loads s.directory u = loads s.directory t :=
  funext fun fingerprint => load_eq_of_read_eq (s := ⟨s.directory, fingerprint⟩) h

/-- From a file with the octets of a snapshot the snapshot is loaded. -/
theorem loads_of_read (hl : x.index.Linked) (hx : x.index.Storable)
    (h : u.read s.path = .ok x.octets) : loads s.directory u = x.answer := by
  funext fingerprint
  rw [loads, load_of_read (s := ⟨s.directory, fingerprint⟩) h, Refusals.none,
    if_neg Bool.false_ne_true]
  exact ofOctets_octets_eq_answer hl hx s.directory fingerprint

/-! ### A save that is cut short -/

/-- The files that a save of a snapshot may leave when the process stops or a step fails. -/
inductive Passes (s : Store) (refused : Refusals) (x : Snapshot) (t : FileTree) : FileTree → Prop
  /-- Some of the directories are made, those farthest up first. -/
  | directories (n : Nat) : Passes s refused x t (t.makeUpward (s.directory.ancestors.drop n)).1
  /-- Some of the steps are done. -/
  | steps (n : Nat) : Passes s refused x t (s.perform refused x.octets (saveSteps.take n) t).1
  /-- The draft is filled in part. -/
  | torn {part : List UInt8} (h : part <+: x.octets) :
      Passes s refused x t (s.perform refused part (saveSteps.take 3) t).1
  /-- After a failure the draft is removed, if the machine removes it. -/
  | cleaned {u : FileTree} (h : Passes s refused x t u) (failed : DiskStep) :
      Passes s refused x t (s.cleanUp refused failed u)

/-- A save ends with such files. -/
theorem passes_save (s : Store) (refused : Refusals) (t : FileTree) (x : Snapshot) :
    s.Passes refused x t (s.save refused t x).1 := by
  have all :
      s.Passes refused x t (s.perform refused x.octets (saveSteps.take saveSteps.length) t).1 :=
    .steps saveSteps.length
  rw [List.take_length] at all
  rw [save]
  split
  next h => rwa [h] at all
  next h =>
    rw [h] at all
    exact all.cleaned _

/-- The first steps of a save leave nothing but the draft, and the directories if they came to make
them. -/
theorem draftOnly_of_take {n : Nat} (hn : n < saveSteps.length) (octets : List UInt8) :
    s.DraftOnly t (s.perform refused octets (saveSteps.take n) t).1 ∨
      s.DraftOnly (t.makeDirectories s.directory).1
        (s.perform refused octets (saveSteps.take n) t).1 := by
  cases n with
  | zero => exact .inl (.refl s t)
  | succ n =>
      have short : ∀ step ∈ List.take n [.create, .write, .sync, .rename],
          step ≠ DiskStep.makeDirectory ∧ step ≠ .rename := by
        intro step hstep
        have hmem : step ∈ [DiskStep.create, .write, .sync] :=
          List.take_subset_take_left _ (Nat.le_of_lt_succ (Nat.lt_of_succ_lt_succ hn)) hstep
        simp only [List.mem_cons, List.not_mem_nil, or_false] at hmem
        rcases hmem with rfl | rfl | rfl <;> simp
      rw [saveSteps, List.take_succ_cons]
      obtain ⟨_, hfirst⟩ | ⟨_, hfirst⟩ | hrest := s.of_perform_makeDirectory refused octets
        (List.take n [.create, .write, .sync, .rename]) t
      · rw [hfirst]
        exact .inl (.refl s t)
      · rw [hfirst]
        exact .inr (.refl s _)
      · rw [hrest]
        exact .inr (draftOnly_perform short octets _)

/-- **The snapshot file is at all times the old one or the new one.** -/
theorem Passes.read (h : s.Passes refused x t u) (ht : t.IsRooted)
    (hd : t.LeadsDown s.directory.components) :
    u.read s.path = t.read s.path ∨ u.read s.path = .ok x.octets := by
  have made : ∀ {ps : List Path}, ps ⊆ s.directory.ancestors →
      (t.makeUpward ps).1.read s.path = t.read s.path := by
    intro ps hps
    exact FileTree.read_makeUpward ht hd isName_fileName (by decide) hps
  have drafted :
      ∀ {v : FileTree}, s.DraftOnly t v ∨ s.DraftOnly (t.makeDirectories s.directory).1 v →
      v.read s.path = t.read s.path := by
    rintro v (draft | draft)
    · exact draft.read
    · exact draft.read.trans (made fun _ => id)
  induction h with
  | directories n => exact .inl (made (List.drop_subset n _))
  | torn _ => exact .inl (drafted (draftOnly_of_take (by decide) _))
  | cleaned _ failed ih =>
      rw [(s.draftOnly_cleanUp refused failed _).read]
      exact ih
  | steps n =>
      rcases Nat.lt_or_ge n saveSteps.length with hn | hn
      · exact .inl (drafted (draftOnly_of_take hn _))
      -- the save has come to its end, well or not
      rw [List.take_of_length_le hn]
      rcases hp : s.perform refused x.octets saveSteps t with ⟨v, result⟩
      cases result with
      | none => exact .inr (read_of_perform hp)
      | some failed => exact .inl (drafted (draftOnly_of_perform_saveSteps hp))

/-! ### What is loaded -/

/-- **What is saved is loaded, and a save is done or not done.**  After a save that succeeds the
snapshot is loaded for its own fingerprint, its moment truncated, and is stale for any other one.
After a save that fails, and wherever a save is cut short, the snapshot file and every load from it
are as they were, or those of the new snapshot.  In both of these cases the path of the directory
has to lead down from where nothing is there, which it does when the directory is there. -/
theorem save_atomic (s : Store) (refused : Refusals) (t : FileTree) {x : Snapshot}
    (hx : x.index.Attainable) :
    (∀ u, s.save refused t x = (u, none) → x.index.Storable → loads s.directory u = x.answer) ∧
    (t.IsRooted → t.LeadsDown s.directory.components →
      (∀ u cause, s.save refused t x = (u, some cause) →
        u.read s.path = t.read s.path ∧ loads s.directory u = loads s.directory t) ∧
      ∀ u, s.Passes refused x t u →
        (u.read s.path = t.read s.path ∧ loads s.directory u = loads s.directory t) ∨
          (u.read s.path = .ok x.octets ∧
            (x.index.Storable → loads s.directory u = x.answer))) := by
  constructor
  · intro u hsave hstorable
    exact loads_of_read hx.linked hstorable (read_of_perform (save_eq_none.1 hsave))
  · intro ht hd
    constructor
    · intro u cause hsave
      have same := read_of_save_error hsave ht hd
      exact ⟨same, loads_congr same⟩
    · intro u hu
      obtain same | new := hu.read ht hd
      · exact .inl ⟨same, loads_congr same⟩
      · exact .inr ⟨new, fun hstorable => loads_of_read hx.linked hstorable new⟩

/-- A snapshot of one line, built before 1970. -/
def noted : Snapshot where
  index := .build default [⟨2015, 1, none, [⟨"a line".toList, ⟨0x3FF0000000000000⟩⟩]⟩]
  builtAt := .atSecond (-1)
  fingerprint := "0".toList

theorem attainable_noted : noted.index.Attainable :=
  (Index.Attainable.empty default).change (.build _)

/-- A snapshot file that cannot be understood, and a directory in the way of its draft. -/
def blocked : FileTree where
  entries := .ofList [(["b".toList], .directory), (["b".toList, fileName], .file []),
    (["b".toList, draftName], .directory)]

/-- **The condition on the path is needed.**  A save may make the directory that a path with two
dots leads through, fail after that, and leave a snapshot file in view that was not to be seen. -/
theorem save_uncovers :
    ∃ u cause, (Store.mk "a/../b".toList []).save .none blocked noted = (u, some cause) ∧
      loads "a/../b".toList u [] ≠ loads "a/../b".toList blocked [] := by
  refine ⟨((Store.mk "a/../b".toList []).save .none blocked noted).1,
    .refused "a/../b/snapshot.json.tmp".toList .isDirectory, ?_, ?_⟩
  · exact Prod.ext rfl (by decide)
  · decide

/-- A first save that succeeds, one that stops with a part of its draft, and a save that fails. -/
theorem noted_save_atomic :
    (∃ u, (Store.mk "b".toList []).save .none .empty noted = (u, none) ∧
      loads "b".toList u = noted.answer) ∧
    (∃ u, (Store.mk "b".toList []).Passes .none noted .empty u ∧
      (loads "b".toList u = loads "b".toList .empty ∨ loads "b".toList u = noted.answer)) ∧
    ∃ u cause, (Store.mk "b".toList []).save .none blocked noted = (u, some cause) ∧
      loads "b".toList u = loads "b".toList blocked := by
  have storable : noted.index.Storable := by decide +kernel
  refine ⟨?_, ?_, ?_⟩
  · have succeeds : ((Store.mk "b".toList []).save .none .empty noted).2 = none := by decide
    have hsave : (Store.mk "b".toList []).save .none .empty noted = (_, none) :=
      Prod.ext rfl succeeds
    exact ⟨_, hsave,
      (save_atomic ⟨"b".toList, []⟩ .none .empty attainable_noted).1 _ hsave storable⟩
  · have rooted : FileTree.empty.IsRooted := FileTree.isRooted_of_entries (by decide)
    have down : FileTree.empty.LeadsDown (Store.mk "b".toList []).directory.components :=
      FileTree.leadsDown_of_isStraight (by decide) .empty
    have part : (Store.mk "b".toList []).Passes .none noted .empty _ :=
      .torn <| List.take_prefix 7 noted.octets
    obtain ⟨-, stops⟩ := (save_atomic ⟨"b".toList, []⟩ .none .empty attainable_noted).2 rooted down
    exact ⟨_, part, (stops _ part).imp And.right fun new => new.2 storable⟩
  · have rooted : blocked.IsRooted := FileTree.isRooted_of_entries (by decide)
    have there : blocked.follow "b".toList = .ok ["b".toList] := by decide
    have down : blocked.LeadsDown (Store.mk "b".toList []).directory.components :=
      FileTree.leadsDown_of_follow there (by decide)
    have failed : ((Store.mk "b".toList []).save .none blocked noted).2 =
        some (.refused "b/snapshot.json.tmp".toList .isDirectory) := by decide
    have hsave : (Store.mk "b".toList []).save .none blocked noted = (_, some _) :=
      Prod.ext rfl failed
    obtain ⟨fails, -⟩ := (save_atomic ⟨"b".toList, []⟩ .none blocked attainable_noted).2 rooted down
    exact ⟨_, _, hsave, (fails _ _ hsave).2⟩

end Store

end TranscriptSearch
