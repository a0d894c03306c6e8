import TranscriptSearch.Proofs.CommandLine.Run
import TranscriptSearch.Proofs.Snapshot.Breakdown

/-!
# Command line — a snapshot that cannot be used

Whatever stands in the place of the snapshot file, a service finds no snapshot there, the status
tells what is wrong, and a command that needs the snapshot fails and leaves the files alone.  There
is one exception: a file with a second that no clock reaches stops whoever reads it.

* `Service.read_eq`: what a service answers when it is asked for its snapshot.
* `Workplace.code_eq_one_of_needs`: a command that needs a snapshot fails without one.
* `Workplace.code_perform_le`: no command breaks down, unless at such a file.
* `Site.unusable_unless_stopped`: what is made of any content of the snapshot file.
* `Site.farSecond_stops`: such a file stops all of them.
-/

namespace TranscriptSearch

/-- **A service answers with what it has**, and tries the disk once when it has nothing. -/
theorem Service.read_eq (s : Service) {refused : Refusals} {files : FileTree}
    (h : ¬ s.store.StopsReader refused files) :
    (s.read refused files).2 =
      .ok (s.current.or (if s.hasTried then none else (s.store.load refused files).toOption)) := by
  rw [read]
  split
  next hc => rw [hc, Option.some_or]
  next hc =>
    rw [hc, Option.none_or]
    split
    next => rfl
    next =>
      obtain ⟨x, hload⟩ | ⟨cause, hload⟩ := Store.exists_load h <;> rw [hload] <;> rfl

namespace CommandLine

/-- Whether a command cannot do its work, when this is why there is no snapshot. -/
def needsSnapshot (cause : SnapshotError) : Command → Bool
  | .search _ _ | .lines _ _ _ => true
  | .index _ update            => update && cause.status != .missing
  | .status | .config          => false

namespace Workplace

variable {w : Workplace} {cause : SnapshotError}

/-- A run that goes on with a snapshot fails when there is none. -/
theorem withSnapshot_of_error
    (h : w.store.load w.surroundings.refused w.surroundings.files = .error (.error cause))
    (remarks : Output) (next : Output → Snapshot → Effect) :
    ∃ remarks', w.withSnapshot remarks next = w.fails remarks' (unusable cause) := by
  rw [withSnapshot, h]
  exact ⟨_, rfl⟩

/-- An update of an index that cannot be read does not come about. -/
theorem built_update_of_error
    (h : w.store.load w.surroundings.refused w.surroundings.files = .error (.error cause))
    (hcause : cause.status ≠ .missing) (ts : List Transcript) :
    w.built true ts = (w.surroundings.files, .error (.persistence cause)) := by
  have base : (Service.start w.store w.settings.rule).base w.surroundings.refused
      w.surroundings.files = .error (.error cause) := by
    rw [Service.base]
    simp only [Service.start, h]
    cases cause <;> simp [SnapshotError.status] at hcause ⊢
  obtain ⟨changed, hchanged⟩ : ∃ m, Request.ofChanged ts = .incremental m := ⟨_, rfl⟩
  rw [built, request, if_pos rfl, hchanged, Service.construct, Service.newIndex, base]
  rfl

/-- **A command that needs a snapshot fails without one**, and leaves the files alone. -/
theorem code_eq_one_of_needs
    (h : w.store.load w.surroundings.refused w.surroundings.files = .error (.error cause))
    {c : Command} (hc : needsSnapshot cause c = true) :
    (w.perform c).code = 1 ∧ (w.perform c).files = w.surroundings.files := by
  cases c with
  | search query json =>
      obtain ⟨remarks, hfails⟩ := withSnapshot_of_error h _ _
      rw [perform, search, hfails]
      exact ⟨rfl, rfl⟩
  | lines session query json =>
      rw [perform, lines]
      split
      next => exact ⟨rfl, rfl⟩
      next =>
        obtain ⟨remarks, hfails⟩ := withSnapshot_of_error h _ _
        rw [hfails]
        exact ⟨rfl, rfl⟩
  | index file update =>
      obtain ⟨rfl, hcause⟩ := Bool.and_eq_true_iff.1 hc
      rw [perform]
      cases hts : w.transcripts file with
      | error complaint => exact index_of_error true hts
      | ok ts =>
          obtain ⟨hfiles, hcode⟩ := index_of_ok true hts
          rw [hfiles, hcode, built_update_of_error h (bne_iff_ne.1 hcause)]
          exact ⟨rfl, rfl⟩
  | status => cases hc
  | config => cases hc

/-- A run that goes on with the snapshot fails, or ends as it goes on. -/
theorem code_withSnapshot_le
    (h : ¬ w.store.StopsReader w.surroundings.refused w.surroundings.files) {remarks : Output}
    {next : Output → Snapshot → Effect} (hnext : ∀ remarks x, (next remarks x).code ≤ 1) :
    (w.withSnapshot remarks next).code ≤ 1 := by
  obtain ⟨x, hload⟩ | ⟨cause, hload⟩ := Store.exists_load h
  · rw [withSnapshot, hload]
    exact hnext _ x
  · obtain ⟨remarks', hfails⟩ := withSnapshot_of_error hload remarks next
    rw [hfails]
    exact le_rfl

/-- **No command breaks down**, unless at a file that stops its reader. -/
theorem code_perform_le
    (h : ¬ w.store.StopsReader w.surroundings.refused w.surroundings.files) (c : Command) :
    (w.perform c).code ≤ 1 := by
  cases c with
  | search query json => exact code_withSnapshot_le h fun _ _ => Nat.zero_le 1
  | lines session query json =>
      rw [perform, lines]
      split
      next => exact le_rfl
      next =>
        refine code_withSnapshot_le h fun _ _ => ?_
        split
        · exact Nat.zero_le 1
        · exact le_rfl
  | status =>
      rw [perform, status]
      obtain ⟨x, hload⟩ | ⟨cause, hload⟩ := Store.exists_load h <;> rw [hload] <;>
        exact Nat.zero_le 1
  | config => exact Nat.zero_le 1
  | index file update =>
      rw [perform]
      cases hts : w.transcripts file with
      | error complaint => rw [(index_of_error update hts).1]
      | ok ts =>
          rw [(index_of_ok update hts).2]
          split
          · exact Nat.zero_le 1
          · exact le_rfl

end Workplace

namespace Site

/-- **Whatever stands in the place of the snapshot file**, a load of it breaks down just when it
stops its reader.  Otherwise a load gives a snapshot or an error, no command breaks down, and one
that needs the snapshot fails without it and leaves the files alone; the status is current just when
there is a snapshot, and a service answers with what it has or can load, whatever the machine
refuses. -/
theorem unusable_unless_stopped (site : Site) (e : Surroundings) :
    ((∃ fault, site.store.load e.refused e.files = .error (.breakdown fault)) ↔
      site.store.StopsReader e.refused e.files) ∧
    (¬ site.store.StopsReader e.refused e.files →
      ((∃ x, site.store.load e.refused e.files = .ok x) ∨
        ∃ cause, site.store.load e.refused e.files = .error (.error cause)) ∧
      ∀ words c, site.Asks e words c →
        (run e words).code ≤ 1 ∧
        ∀ cause, site.store.load e.refused e.files = .error (.error cause) →
          needsSnapshot cause c = true → (run e words).code = 1 ∧ (run e words).files = e.files) ∧
    ∀ refused, ¬ site.store.StopsReader refused e.files →
      (∃ status, site.store.status refused e.files = .ok status ∧
        (status = .current ↔ ∃ x, site.store.load refused e.files = .ok x)) ∧
      ∀ s : Service, s.store = site.store →
        (s.read refused e.files).2 = .ok (s.current.or
          (if s.hasTried then none else (site.store.load refused e.files).toOption)) := by
  refine ⟨⟨?_, ?_⟩, fun h => ⟨Store.exists_load h, ?_⟩,
    fun refused h => ⟨Store.exists_status h, ?_⟩⟩
  · rintro ⟨fault, hload⟩
    exact Store.load_eq_breakdown_iff.1 hload
  · intro h
    exact ⟨.clockOverflow, Store.load_eq_breakdown_iff.2 h⟩
  · intro words c hasks
    obtain ⟨w, rfl, -, hstore, hrun⟩ := hasks.run_eq
    rw [hrun, ← hstore]
    rw [← hstore] at h
    exact ⟨Workplace.code_perform_le h c,
      fun cause hload hneeds => Workplace.code_eq_one_of_needs hload hneeds⟩
  · intro s hs
    rw [← hs] at h ⊢
    exact s.read_eq h

/-- A snapshot file of some octets, in the directory where it is looked for when nothing is set. -/
def holding (octets : String) : Surroundings where
  files := ⟨.ofList [([Settings.defaultDirectory], .directory),
    ([Settings.defaultDirectory, Store.fileName], .file (Text.encode octets.toList))]⟩
  home := "/".toList
  cwd := "/".toList
  now := .atSecond 0
  logs := false
  refused := .none

/-- That directory, and the settings when nothing is set. -/
def unset : Site := ⟨default, "/.scribe".toList⟩

/-- The start of a snapshot file with a second of the build that no clock reaches. -/
def farSecond : Surroundings := holding "\x7b\"built_at\":18446744073709551615"

/-- **A second that no clock reaches stops them all**: a load, the status, a service that is asked
for its snapshot, and a search. -/
theorem farSecond_stops :
    unset.store.load .none farSecond.files = .error (.breakdown .clockOverflow) ∧
    unset.store.status .none farSecond.files = .error .clockOverflow ∧
    ((Service.start unset.store default).read .none farSecond.files).2 = .error .clockOverflow ∧
    (run farSecond ["search".toList, "swift".toList]).code = 101 := by
  refine ⟨?_, ?_, ?_, ?_⟩
  · decide
  · decide
  · decide
  · decide

/-- A snapshot file that cannot be understood. -/
def garbled : Surroundings := holding "garbled"

/-- Such a file is told as one, and a search fails. -/
theorem garbled_unusable :
    unset.store.load .none garbled.files = .error (.error .malformed) ∧
    (run garbled ["search".toList, "swift".toList]).code = 1 ∧
    ∃ status, unset.store.status .none garbled.files = .ok status ∧ status ≠ .current := by
  have hload : unset.store.load .none garbled.files = .error (.error .malformed) := by
    decide
  have asks : unset.Asks garbled ["search".toList, "swift".toList] (.search "swift".toList false) :=
    ⟨by decide, ⟨.search "swift".toList false, none, 0⟩, parse_search_plain rfl, rfl,
      by decide⟩
  obtain ⟨breaks, runs, looks⟩ := unusable_unless_stopped unset garbled
  have sound : ¬ unset.store.StopsReader .none garbled.files := by
    intro h
    obtain ⟨fault, hfault⟩ := breaks.2 h
    cases hload.symm.trans hfault
  obtain ⟨status, hstatus, hcurrent⟩ := (looks .none sound).1
  refine ⟨hload, (((runs sound).2 _ _ asks).2 _ hload rfl).1, status, hstatus, ?_⟩
  intro h
  obtain ⟨x, hx⟩ := hcurrent.1 h
  cases hload.symm.trans hx

end Site

end CommandLine

end TranscriptSearch
