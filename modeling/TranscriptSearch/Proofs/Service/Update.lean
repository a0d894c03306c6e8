import TranscriptSearch.Proofs.Service.Build

/-!
# Service — an update drops nothing

A request with changed transcripts is merged into a base: the index in memory, otherwise the one on
disk.  Only where there is neither it begins with nothing; where there is a file that cannot be
loaded it fails instead, so that what could not be read is not replaced by the changes alone.

* `Index.Updates`: an index holds a base with some transcripts in the place of its own.
* `Index.Linked.updates_merge`: a merge gives such an index.
* `Service.StartsFrom`: the base of an update.
* `Service.build_of_unloadable`: an update over a file that cannot be loaded changes nothing.
* `Service.update_keeps_base`: an update succeeds with an index that updates its base, or it fails.
-/

namespace TranscriptSearch

namespace Index

/-- An index holds what a base holds, with the valid ones of some transcripts in the place of what
it holds of their sessions. -/
structure Updates (base : Index) (changed : SortedMap SessionKey Transcript) (x : Index) :
    Prop where
  /-- Lines are cut as before. -/
  rule : x.rule = base.rule
  /-- A session without a valid transcript is as it was: its attributes, its terms and its lines. -/
  kept : ∀ {k}, (∀ t ∈ changed.get? k, Batch.isValid t = false) →
    x.sessions.get? k = base.sessions.get? k
  /-- So are the occurrences of each term in it, in their order. -/
  keptIn : ∀ {k}, (∀ t ∈ changed.get? k, Batch.isValid t = false) →
    ∀ term, x.occurrencesIn k term = base.occurrencesIn k term
  /-- A valid transcript is held as it is. -/
  brought : ∀ {k t}, changed.get? k = some t → Batch.isValid t = true →
    x.sessions.get? k = some (sessionOf base.rule t)
  /-- So are the occurrences of each term in it. -/
  broughtIn : ∀ {k t}, changed.get? k = some t → Batch.isValid t = true →
    ∀ term, x.occurrencesIn k term = base.rule.postingsOf term t

/-- **A merge gives such an index.** -/
theorem Linked.updates_merge {base : Index} (h : base.Linked)
    {changed : SortedMap SessionKey Transcript} (hkeyed : Request.Keyed changed) :
    base.Updates changed (base.merge changed.values) := by
  have standing :
      ∀ k, Batch.standing? k changed.values = (changed.get? k).filter Batch.isValid := by
    intro k
    rw [Batch.standing?, hkeyed.last?_values]
  have none : ∀ {k}, (∀ t ∈ changed.get? k, Batch.isValid t = false) →
      Batch.standing? k changed.values = none := by
    intro k hk
    rw [standing, Option.filter_eq_none_iff]
    exact fun t ht => by rw [hk t ht]; exact Bool.false_ne_true
  have some : ∀ {k t}, changed.get? k = some t → Batch.isValid t = true →
      Batch.standing? k changed.values = some t := by
    intro k t ht hvalid
    rw [standing, ht, Option.filter_some, if_pos hvalid]
  refine ⟨rule_merge _ _, fun hk => ?_, fun hk term => ?_, fun ht hvalid => ?_,
    fun ht hvalid term => ?_⟩
  · rw [sessions_merge, none hk]
    rfl
  · rw [h.occurrencesIn_merge, none hk]
    rfl
  · rw [sessions_merge, some ht hvalid]
    rfl
  · rw [h.occurrencesIn_merge, some ht hvalid]
    rfl

end Index

namespace Service

/-- What an update starts from. -/
inductive StartsFrom (s : Service) (refused : Refusals) (files : FileTree) : Index → Prop
  /-- The index in memory. -/
  | memory {y : Snapshot} (h : s.current = some y) : StartsFrom s refused files y.index
  /-- Otherwise the one on disk. -/
  | disk {y : Snapshot} (h : s.current = none) (hload : s.store.load refused files = .ok y) :
      StartsFrom s refused files y.index
  /-- Otherwise nothing, when there is no file. -/
  | nothing (h : s.current = none) (hfile : s.store.holdsFile files = false) :
      StartsFrom s refused files (.empty s.rule)

variable {s : Service} {refused : Refusals} {now : Moment} {files : FileTree}

theorem startsFrom_of_base {x : Index} (h : s.base refused files = .ok x) :
    s.StartsFrom refused files x := by
  cases hc : s.current with
  | some y =>
      rw [base, hc] at h
      cases h
      exact .memory hc
  | none =>
      obtain ⟨y, hload, rfl⟩ | ⟨place, hload, rfl⟩ := of_base hc h
      · exact .disk hc hload
      · exact .nothing hc (Store.holdsFile_of_missing hload)

/-- **An update over a file that cannot be loaded changes nothing**, neither in memory nor on disk,
but that the build has ended. -/
theorem build_of_unloadable {job : Job} (hstage : s.queue.stage = .building job)
    (hwritten : s.written = none) {changed : SortedMap SessionKey Transcript}
    (hrequest : job.request = .incremental changed) (hc : s.current = none)
    (hfile : s.store.holdsFile files = true) {failure : LoadFailure}
    (hload : s.store.load refused files = .error failure) :
    s.build refused now files =
      ({ s with queue := s.queue.finish (.error failure.buildFailure) }, files) := by
  have hbase : s.base refused files = .error failure := by
    rw [base, hc]
    simp only [hload]
    split
    next h => cases h
    next place h =>
      rw [Except.error.inj h] at hload
      rw [Store.holdsFile_of_missing hload] at hfile
      cases hfile
    next h => rw [Except.error.inj h]
  have hindex : s.newIndex refused files job.request = .error failure := by
    rw [hrequest, newIndex, hbase]
    rfl
  rw [build, hstage, hwritten]
  simp only [construct_error hindex]

/-- **An update drops nothing.**  It succeeds with an index that updates its base, or it fails, from
every state of the service and of the files and whatever the machine refuses.  Over a file that
cannot be loaded it fails and changes nothing, whether or not the disk was tried before. -/
theorem update_keeps_base {store : Store} {rule : TermRule} {s : Service}
    (h : Reachable store rule s) {job : Job} (hstage : s.queue.stage = .building job)
    (hwritten : s.written = none) {changed : SortedMap SessionKey Transcript}
    (hrequest : job.request = .incremental changed) (refused : Refusals) (now : Moment)
    (files : FileTree) :
    ((∃ base x, s.StartsFrom refused files base ∧ base.Updates changed x.index ∧
        s.Succeeds job refused now files x) ∨
      ∃ failure, s.Fails job refused now files failure) ∧
    ∀ tried failure, s.current = none → s.store.holdsFile files = true →
      s.store.load refused files = .error failure →
      { s with hasTried := tried : Service }.build refused now files =
        ({ s with
            hasTried := tried
            queue := s.queue.finish (.error failure.buildFailure) }, files) := by
  have sound := sound_of_reachable h
  have hjob := Stage.job?_eq_some_iff.2 hstage
  have hkeyed : Request.Keyed changed := by
    have := sound.building job hjob
    rwa [hrequest] at this
  refine ⟨?_, fun tried failure hc hfile hload => ?_⟩
  · obtain ⟨-, idle⟩ | ⟨job', hjob', -, files', ⟨x, hbuilt, hb⟩ | ⟨failure, hbuilt, hb⟩⟩ :=
      s.of_build refused now files
    · rw [idle hwritten] at hjob
      cases hjob
    · obtain rfl := Option.some.inj (hjob.symm.trans hjob')
      have hindex := (of_construct hbuilt).1
      rw [hrequest, newIndex] at hindex
      cases hbase : s.base refused files with
      | error e => rw [hbase] at hindex; cases hindex
      | ok base =>
          rw [hbase] at hindex
          have hx : base.merge changed.values = x.index := Except.ok.inj hindex
          exact .inl ⟨base, x, startsFrom_of_base hbase,
            hx ▸ (sound.linked_base hbase).updates_merge hkeyed,
            sound.succeeds hstage hbuilt hb⟩
    · obtain rfl := Option.some.inj (hjob.symm.trans hjob')
      exact .inr ⟨failure, fails hstage hwritten hbuilt hb⟩
  · exact build_of_unloadable (s := { s with hasTried := tried }) hstage hwritten hrequest hc hfile
      hload

/-! ### Two updates -/

/-- A session of one line at a time. -/
def lineAt (sessionId : UInt32) (text : String) (timecode : Timecode) : Transcript :=
  ⟨2015, sessionId, none, [⟨text.toList, timecode⟩]⟩

/-- Two sessions. -/
def opening : List Transcript := [lineAt 1 "one line" .zero, lineAt 2 "two lines" .zero]

/-- The second of them at no time, and a third one. -/
def later : List Transcript := [lineAt 2 "no line" .nan, lineAt 3 "three lines" .zero]

/-- A service that has indexed two sessions and is about to update. -/
def updating : Service × FileTree :=
  perform (start ⟨"b".toList, []⟩ default, .empty)
    [.run opening, .take, .build .none (.atSecond 0), .publish, .collect, .answer, .rest,
      .update later, .take]

/-- A service that is about to update where a file cannot be read. -/
def updatingObstructed : Service × FileTree :=
  perform (start ⟨"b".toList, []⟩ default, obstructed) [.update later, .take]

/-- The one update keeps both sessions, and the other one leaves the file alone. -/
theorem updating_keeps_base :
    (∃ y x, updating.1.current = some y ∧
      updating.1.Succeeds ⟨.ofChanged later, [1]⟩ .none (.atSecond 1) updating.2 x ∧
      x.index.sessions.get? ⟨2015, 1⟩ = y.index.sessions.get? ⟨2015, 1⟩ ∧
      x.index.sessions.get? ⟨2015, 2⟩ = y.index.sessions.get? ⟨2015, 2⟩) ∧
    (updatingObstructed.1.build .none (.atSecond 1) obstructed).2 = obstructed := by
  have request : Request.ofChanged later = .incremental (later.foldl Request.change .empty) := rfl
  constructor
  · have reachable : Reachable ⟨"b".toList, []⟩ default updating.1 :=
      Reachable.perform (w := (start ⟨"b".toList, []⟩ default, .empty)) .start _
    have stage : updating.1.queue.stage = .building ⟨.ofChanged later, [1]⟩ :=
      Stage.job?_eq_some_iff.1 (by decide)
    have unwritten : updating.1.written = none := Option.isNone_iff_eq_none.1 (by decide)
    obtain ⟨base, x, hbase, hupdates, hx⟩ | ⟨failure, hf⟩ :=
      (update_keeps_base reachable stage unwritten request .none (.atSecond 1) updating.2).1
    · have inMemory : updating.1.current ≠ none :=
        Option.isSome_iff_ne_none.1 (by decide)
      cases hbase with
      | memory h =>
          exact ⟨_, x, h, hx, hupdates.kept (by decide), hupdates.kept (by decide)⟩
      | disk h hload => exact absurd h inMemory
      | nothing h hfile => exact absurd h inMemory
    · have written : (updating.1.build .none (.atSecond 1) updating.2).1.written.isSome = true := by
        decide
      rw [hf.memory, unwritten] at written
      cases written
  · have reachable : Reachable ⟨"b".toList, []⟩ default updatingObstructed.1 :=
      Reachable.perform (w := (start ⟨"b".toList, []⟩ default, obstructed)) .start _
    have stage : updatingObstructed.1.queue.stage = .building ⟨.ofChanged later, [0]⟩ :=
      Stage.job?_eq_some_iff.1 (by decide)
    have unwritten : updatingObstructed.1.written = none :=
      Option.isNone_iff_eq_none.1 (by decide)
    have malformed : updatingObstructed.1.store.load .none obstructed =
        .error (.error .malformed) := by decide
    rw [(update_keeps_base reachable stage unwritten request .none (.atSecond 1) obstructed).2
      updatingObstructed.1.hasTried _ (Option.isNone_iff_eq_none.1 (by decide))
      (by decide) malformed]

end Service

end TranscriptSearch
