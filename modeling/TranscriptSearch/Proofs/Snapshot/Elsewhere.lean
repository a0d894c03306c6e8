import TranscriptSearch.Proofs.Snapshot.Failure

/-!
# Snapshot — what a save leaves elsewhere

A save writes to two places, the file and its draft, and makes directories.  Whether it succeeds or
fails, everything stands in a directory as before, the path of the store's directory leads down as
before, and no other file bears the name of a snapshot file than did before.

* `Store.of_save`: what stands at each place after a save that succeeds.
* `Store.isRooted_of_save`, `Store.leadsDown_of_save`: what a save needs holds after it.
* `Store.keeps_of_save`: every directory is still there.
* `Store.file_of_save`: a snapshot file after a save was there before, or is what was saved.
-/

namespace TranscriptSearch

namespace Store

variable {s : Store} {refused : Refusals} {t u : FileTree} {x : Snapshot}

/-! ### Trees that differ in the draft -/

theorem DraftOnly.isRooted (h : s.DraftOnly t u) (ht : t.IsRooted) : u.IsRooted := by
  intro q n hne
  obtain hsame | ⟨hf, -, -⟩ := h (q ++ [n])
  · rw [hsame] at hne
    exact h.keeps q (ht q n hne)
  · -- the draft stands in a directory
    obtain ⟨home, -, hdir, hq⟩ := of_follow_draftPath hf
    rw [List.append_inj_left' hq rfl]
    exact h.keeps home hdir

theorem DraftOnly.leadsDown (h : s.DraftOnly t u) (hd : t.LeadsDown s.directory.components) :
    u.LeadsDown s.directory.components := by
  obtain hall | ⟨home, hwalk, hdir, -⟩ := h.same_or_walk
  · intro before rest q hcs hw hq
    rw [FileTree.walk_congr hall] at hw
    exact hd before rest q hcs hw (hall q ▸ hq)
  · exact FileTree.leadsDown_of_walk (h.keeps.walk hwalk) (h.keeps home hdir)

/-- No draft bears the name of a snapshot file. -/
theorem DraftOnly.file (h : s.DraftOnly t u) (home : Place) :
    u.at? (home ++ [fileName]) = t.at? (home ++ [fileName]) := by
  obtain hsame | ⟨hf, -, -⟩ := h (home ++ [fileName])
  · exact hsame
  · obtain ⟨home', -, -, hq⟩ := of_follow_draftPath hf
    have names : fileName ≠ draftName := by decide
    exact absurd (List.singleton_inj.1 (List.append_inj_right' hq rfl)) names

/-! ### A save that succeeds -/

/-- **What stands at each place after a save that succeeds.**  The draft was made beside the file,
and then took its place. -/
theorem of_save (h : s.save refused t x = (u, none)) :
    ∃ home v, s.DraftOnly (t.makeDirectories s.directory).1 v ∧ s.Stands u home ∧ v.Keeps u ∧
      ∀ q, u.at? q =
        if q = home ++ [fileName] then some (.file x.octets)
        else if q = home ++ [draftName] then none
        else v.at? q := by
  have performed := save_eq_none.1 h
  obtain ⟨home, hstands, hfile⟩ := stands_of_perform performed
  obtain ⟨_, hfirst⟩ | ⟨_, hfirst⟩ | hrest :=
    s.of_perform_makeDirectory refused x.octets [.create, .write, .sync, .rename] t
  · cases hfirst.symm.trans performed
  · cases hfirst.symm.trans performed
  have drafted : s.DraftOnly (t.makeDirectories s.directory).1
      (s.perform refused x.octets [.create, .write, .sync] (t.makeDirectories s.directory).1).1 :=
    draftOnly_perform (by decide) x.octets _
  have renamed := hrest.symm.trans performed
  rw [show [DiskStep.create, .write, .sync, .rename] =
      [.create, .write, .sync] ++ [.rename] from rfl,
    perform_append] at renamed
  split at renamed
  next v hv =>
    rw [hv] at drafted
    obtain ⟨-, u', hu', hlast⟩ := perform_cons_eq_none.1 renamed
    obtain rfl : u' = u := (Prod.mk.inj hlast).1
    obtain ⟨old, new, octets, hold, -, hnew, keeps, hat⟩ := FileTree.of_rename (of_changed hu')
    obtain rfl : home ++ [draftName] = old :=
      Except.ok.inj (hstands.draft.symm.trans (keeps.follow hold))
    obtain rfl : home ++ [fileName] = new :=
      Except.ok.inj (hstands.path.symm.trans (keeps.follow hnew))
    refine ⟨home, v, drafted, hstands, keeps, fun q => ?_⟩
    rw [hat]
    split
    next hq =>
      rw [hat, if_pos rfl] at hfile
      exact hfile
    next => rfl
  next => cases renamed

/-! ### Any save -/

variable {result : Option SnapshotError}

/-- Making the directories keeps what a save needs. -/
theorem isRooted_made (ht : t.IsRooted) (hd : t.LeadsDown s.directory.components) :
    (t.makeDirectories s.directory).1.IsRooted ∧
      (t.makeDirectories s.directory).1.LeadsDown s.directory.components := by
  have straight : FileTree.IsStraight fileName := by decide
  have unseen := FileTree.unseen_makeUpward ht hd straight
    fun _ hp => Path.components_of_mem_ancestors (p := s.directory) hp
  exact ⟨unseen.rooted, unseen.leadsDown⟩

/-- **Everything still stands in a directory**, and the path of the directory still leads down. -/
theorem isRooted_of_save (h : s.save refused t x = (u, result)) (ht : t.IsRooted)
    (hd : t.LeadsDown s.directory.components) :
    u.IsRooted ∧ u.LeadsDown s.directory.components := by
  have made := isRooted_made ht hd
  cases result with
  | some cause =>
      obtain draft | draft := of_save_error h
      · exact ⟨draft.isRooted ht, draft.leadsDown hd⟩
      · exact ⟨draft.isRooted made.1, draft.leadsDown made.2⟩
  | none =>
      obtain ⟨home, v, draft, hstands, keeps, hat⟩ := of_save h
      refine ⟨fun q n hne => ?_, FileTree.leadsDown_of_follow hstands.directory hstands.isDirectory⟩
      rw [hat] at hne
      split at hne
      next hq =>
        rw [List.append_inj_left' hq rfl]
        exact hstands.isDirectory
      split at hne
      next => exact absurd rfl hne
      next => exact keeps q (draft.isRooted made.1 q n hne)

/-- **Every directory is still there.** -/
theorem keeps_of_save (h : s.save refused t x = (u, result)) : t.Keeps u := by
  have made := FileTree.makeDirectories_keeps t s.directory
  cases result with
  | some cause =>
      obtain draft | draft := of_save_error h
      · exact draft.keeps
      · exact made.trans draft.keeps
  | none =>
      obtain ⟨home, v, draft, -, keeps, -⟩ := of_save h
      exact (made.trans draft.keeps).trans keeps

/-- **A snapshot file after a save** was there before, or is what was saved, at the path of the
store's file. -/
theorem file_of_save (h : s.save refused t x = (u, result)) {home : Place} {octets : List UInt8}
    (hfile : u.at? (home ++ [fileName]) = some (.file octets)) :
    t.at? (home ++ [fileName]) = some (.file octets) ∨
      (result = none ∧ octets = x.octets ∧ u.follow s.path = .ok (home ++ [fileName])) := by
  cases result with
  | some cause =>
      obtain draft | draft := of_save_error h <;> rw [draft.file] at hfile
      · exact .inl hfile
      · exact .inl (FileTree.file_of_makeUpward hfile)
  | none =>
      obtain ⟨home', v, draft, hstands, -, hat⟩ := of_save h
      rw [hat] at hfile
      split at hfile
      next hq => exact .inr ⟨rfl, (Entry.file.inj (Option.some.inj hfile)).symm, hq ▸ hstands.path⟩
      split at hfile
      next => cases hfile
      next =>
        rw [draft.file] at hfile
        exact .inl (FileTree.file_of_makeUpward hfile)

end Store

end TranscriptSearch
