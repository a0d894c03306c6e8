import TranscriptSearch.Proofs.Service.Reachable
import TranscriptSearch.Proofs.Snapshot.Failure
import TranscriptSearch.Proofs.Snapshot.Record

/-!
# Service — a build is all or nothing

A build writes the new snapshot, and only then lets it become current.  Whatever step it fails at,
what is current and what a load gives are as they were; when it does not fail, both are the new
snapshot before anyone is told.

* `Service.act_written`, `Service.act_told`: what no other action changes between the writing of a
  snapshot and its publication, and from there until everybody was told.
* `Service.Succeeds`, `Service.Fails`: the two ways in which a build ends.
* `Service.build_all_or_nothing`: every build ends in one of them.
* `Service.build_leaves_traces`: the conditions on timecodes and on the directory are needed.
-/

namespace TranscriptSearch

namespace Service

/-- The service after some actions of callers and of the worker, each at some state of the
files. -/
def after (s : Service) (steps : List (FileTree × Action)) : Service :=
  steps.foldl (fun s e => (act (s, e.1) e.2).1) s

theorem after_cons (s : Service) (e : FileTree × Action) (steps : List (FileTree × Action)) :
    s.after (e :: steps) = (act (s, e.1) e.2).1.after steps := rfl

theorem withQueue_of_eq {s : Service} {change : Queue → Queue} (h : change s.queue = s.queue) :
    s.withQueue change = s := by
  rw [withQueue, h]

/-! ### Readers -/

/-- What a reader does not touch. -/
structure Spares (s s' : Service) : Prop where
  /-- A written snapshot. -/
  written : s'.written = s.written
  /-- The requests. -/
  queue : s'.queue = s.queue
  /-- A snapshot that is current. -/
  current : ∀ {x}, s.current = some x → s'.current = some x

theorem spares_read (s : Service) (refused : Refusals) (files : FileTree) :
    s.Spares (s.read refused files).1 := by
  rw [read]
  split
  next => exact ⟨rfl, rfl, id⟩
  next hc =>
    split
    next => exact ⟨rfl, rfl, id⟩
    next =>
      split
      next => exact ⟨rfl, rfl, fun h => by cases hc.symm.trans h⟩
      next => exact ⟨rfl, rfl, id⟩
      next => exact ⟨rfl, rfl, id⟩

theorem spares_look (s : Service) : s.Spares s.look := by
  rw [look]
  split <;> exact ⟨rfl, rfl, id⟩

theorem spares_fetch (s : Service) (refused : Refusals) (files : FileTree) (i : Nat) :
    s.Spares (s.fetch refused files i) := by
  rw [fetch]
  split <;> exact ⟨rfl, rfl, id⟩

theorem spares_settle (s : Service) (i : Nat) : s.Spares (s.settle i) := by
  rw [settle]
  split
  next => exact ⟨rfl, rfl, fun h => by rw [h]; rfl⟩
  next => exact ⟨rfl, rfl, id⟩
  next => exact ⟨rfl, rfl, id⟩
  next => exact ⟨rfl, rfl, id⟩

theorem spares_leave (s : Service) (i : Nat) : s.Spares (s.leave i) := by
  rw [leave]
  split <;> exact ⟨rfl, rfl, id⟩

/-! ### A snapshot that is written -/

/-- A snapshot is written for a job, and nobody was told anything since the queue was `q`. -/
structure HasWritten (q : Queue) (job : Job) (w : Snapshot × BuildSummary) (s : Service) :
    Prop where
  /-- The snapshot waits to be published. -/
  written : s.written = some w
  /-- The job is still being built. -/
  stage : s.queue.stage = .building job
  /-- The worker told nobody. -/
  silent : s.queue.deliveries = q.deliveries

theorem HasWritten.spares {q : Queue} {job : Job} {w : Snapshot × BuildSummary} {s s' : Service}
    (h : HasWritten q job w s) (hs : s.Spares s') : HasWritten q job w s' :=
  ⟨hs.written.trans h.written, hs.queue ▸ h.stage, hs.queue ▸ h.silent⟩

/-- **Between writing and publication** no action but the publication changes this. -/
theorem act_written {q : Queue} {job : Job} {w : Snapshot × BuildSummary} {s : Service}
    (h : HasWritten q job w s) (files : FileTree) {a : Action} (ha : a ≠ .publish) :
    HasWritten q job w (act (s, files) a).1 := by
  -- the worker has its job in hand, so its other steps are not due
  have same : ∀ {change : Queue → Queue}, change s.queue = s.queue →
      HasWritten q job w (s.withQueue change) := fun he => by rwa [withQueue_of_eq he]
  cases a with
  | run ts =>
      exact ⟨h.written, (Queue.stage_enqueue ..).trans h.stage,
        (Queue.deliveries_enqueue ..).trans h.silent⟩
  | update changed =>
      exact ⟨h.written, (Queue.stage_enqueue ..).trans h.stage,
        (Queue.deliveries_enqueue ..).trans h.silent⟩
  | observe => exact ⟨h.written, h.stage, h.silent⟩
  | read refused => exact h.spares (s.spares_read refused files)
  | look => exact h.spares s.spares_look
  | fetch refused i => exact h.spares (s.spares_fetch refused files i)
  | settle i => exact h.spares (s.spares_settle i)
  | leave i => exact h.spares (s.spares_leave i)
  | shutDown => exact ⟨h.written, h.stage, h.silent⟩
  | publish => exact absurd rfl ha
  | build refused now =>
      have idle : s.build refused now files = (s, files) := by rw [build, h.stage, h.written]
      rw [act, idle]
      exact h
  | take => exact same (by rw [Queue.take, h.stage])
  | collect => exact same (by rw [Queue.collect, h.stage])
  | answer => exact same (by rw [Queue.answer, h.stage])
  | notify => exact same (by rw [Queue.notify, h.stage])
  | rest => exact same (by rw [Queue.rest, h.stage])

theorem after_written {q : Queue} {job : Job} {w : Snapshot × BuildSummary} {s : Service}
    (h : HasWritten q job w s) {steps : List (FileTree × Action)}
    (hsteps : ∀ e ∈ steps, e.2 ≠ .publish) : HasWritten q job w (s.after steps) := by
  induction steps generalizing s with
  | nil => exact h
  | cons e steps ih =>
      obtain ⟨he, hrest⟩ := List.forall_mem_cons.1 hsteps
      rw [after_cons]
      exact ih (act_written h e.1 he) hrest

/-! ### The end of a build is told -/

/-- The worker tells how a build ended; what is current then stays current, if there is anything. -/
structure Tells (job : Job) (outcome : Outcome) (before : List (Handle × Outcome))
    (current : Option Snapshot) (s : Service) : Prop where
  /-- Nothing waits to be published. -/
  written : s.written = none
  /-- What was current stays current. -/
  current : ∀ x ∈ current, s.current = some x
  /-- The worker tells the outcome. -/
  queue : s.queue.Tells job outcome before

section

variable {job : Job} {outcome : Outcome} {before : List (Handle × Outcome)}
  {current : Option Snapshot} {s s' : Service}

theorem Tells.spares (h : Tells job outcome before current s) (hs : s.Spares s') :
    Tells job outcome before current s' :=
  ⟨hs.written.trans h.written, fun x hx => hs.current (h.current x hx), hs.queue ▸ h.queue⟩

/-- **While the end of a build is told** what is current stays current. -/
theorem act_told (h : Tells job outcome before current s) (hkind : outcome.isCancellation = false)
    (files : FileTree) {a : Action} (ha : a ≠ .rest) :
    Tells job outcome before current (act (s, files) a).1 := by
  have unbuilt : ∀ job', s.queue.stage ≠ .building job' := fun job' hs => by
    have := h.queue.ended
    rw [hs] at this
    cases this
  cases a with
  | run ts => exact ⟨h.written, h.current, h.queue.enqueue ..⟩
  | update changed => exact ⟨h.written, h.current, h.queue.enqueue ..⟩
  | observe => exact ⟨h.written, h.current, h.queue.ended, h.queue.callers⟩
  | read refused => exact h.spares (s.spares_read refused files)
  | look => exact h.spares s.spares_look
  | fetch refused i => exact h.spares (s.spares_fetch refused files i)
  | settle i => exact h.spares (s.spares_settle i)
  | leave i => exact h.spares (s.spares_leave i)
  | shutDown => exact ⟨h.written, h.current, h.queue.ended, h.queue.callers⟩
  | take => exact ⟨h.written, h.current, h.queue.take⟩
  | build refused now =>
      obtain ⟨hb, -⟩ | ⟨job', hjob, -⟩ := s.of_build refused now files
      · rw [act, hb]
        exact h
      · exact absurd (Stage.job?_eq_some_iff.1 hjob) (unbuilt job')
  | publish =>
      rw [act, publish_of_none h.written]
      exact h
  | collect => exact ⟨h.written, h.current, h.queue.collect⟩
  | answer => exact ⟨h.written, h.current, h.queue.answer hkind⟩
  | notify => exact ⟨h.written, h.current, h.queue.notify⟩
  | rest => exact absurd rfl ha

theorem after_told (h : Tells job outcome before current s) (hkind : outcome.isCancellation = false)
    {steps : List (FileTree × Action)} (hsteps : ∀ e ∈ steps, e.2 ≠ .rest) :
    Tells job outcome before current (s.after steps) := by
  induction steps generalizing s with
  | nil => exact h
  | cons e steps ih =>
      obtain ⟨he, hrest⟩ := List.forall_mem_cons.1 hsteps
      rw [after_cons]
      exact ih (act_told h hkind e.1 he) hrest

end

/-! ### The two ends of a build -/

/-- A build of a job succeeds with a snapshot. -/
structure Succeeds (s : Service) (job : Job) (refused : Refusals) (now : Moment) (files : FileTree)
    (x : Snapshot) : Prop where
  /-- The index is the one that the request leads to. -/
  index : s.newIndex refused files job.request = .ok x.index
  /-- It was built now, for the settings of the service. -/
  header : x.builtAt = now ∧ x.fingerprint = s.store.fingerprint
  /-- In memory the snapshot is written at first, and nothing else changes. -/
  memory : (s.build refused now files).1 = { s with written := some (x, job.request.summary x) }
  /-- A load gives the snapshot, its moment truncated. -/
  load : x.index.Storable → s.store.load .none (s.build refused now files).2 = .ok x.truncated
  /-- Until the snapshot is published the worker tells nobody anything, whatever happens. -/
  silent : ∀ {steps}, (∀ e ∈ steps, e.2 ≠ .publish) →
    ((s.build refused now files).1.after steps).queue.deliveries = s.queue.deliveries
  /-- Then it is current, and still nobody was told. -/
  publish : ∀ {steps}, (∀ e ∈ steps, e.2 ≠ .publish) →
    let t := ((s.build refused now files).1.after steps).publish
    t.current = some x ∧ t.queue.deliveries = s.queue.deliveries
  /-- It stays current while all who waited are told of the success, and then the observers,
  whatever else happens. -/
  told : ∀ {steps steps'}, (∀ e ∈ steps, e.2 ≠ .publish) → (∀ e ∈ steps', e.2 ≠ .rest) →
    Tells job (.ok (job.request.summary x)) s.queue.deliveries.1 (some x)
      (((s.build refused now files).1.after steps).publish.after steps')

/-- A build of a job fails. -/
structure Fails (s : Service) (job : Job) (refused : Refusals) (now : Moment) (files : FileTree)
    (failure : BuildFailure) : Prop where
  /-- In memory nothing changes but that the build has ended. -/
  memory : (s.build refused now files).1 = { s with queue := s.queue.finish (.error failure) }
  /-- Nobody was told yet. -/
  silent : (s.build refused now files).1.queue.deliveries = s.queue.deliveries
  /-- What was current stays current while all who waited are told of the failure, and then the
  observers, whatever else happens. -/
  told : ∀ {steps}, (∀ e ∈ steps, e.2 ≠ .rest) →
    Tells job (.error failure) s.queue.deliveries.1 s.current
      ((s.build refused now files).1.after steps)
  /-- When there is nothing to start from the files are not touched. -/
  untouched : ∀ {e}, s.newIndex refused files job.request = .error e →
    (s.build refused now files).2 = files
  /-- A load gives what it gave before. -/
  load : files.IsRooted → files.LeadsDown s.store.directory.components →
    s.store.load .none (s.build refused now files).2 = s.store.load .none files

theorem of_construct_error {s : Service} {refused : Refusals} {now : Moment}
    {files files' : FileTree} {r : Request} {failure : BuildFailure}
    (h : s.construct refused now files r = (files', .error failure)) :
    (files' = files ∧ ∃ e, s.newIndex refused files r = .error e) ∨
      ∃ x cause, s.newIndex refused files r = .ok x.index ∧
        s.store.save refused files x = (files', some cause) := by
  rw [construct] at h
  split at h
  next e he => exact .inl ⟨(Prod.mk.inj h).1.symm, e, he⟩
  next y hy =>
    split at h
    next => cases h
    next w cause hsave =>
      obtain rfl := (Prod.mk.inj h).1
      exact .inr ⟨_, cause, hy, hsave⟩

/-- No build is cancelled. -/
theorem ne_cancelled_of_construct {s : Service} {refused : Refusals} {now : Moment}
    {files files' : FileTree} {r : Request} {failure : BuildFailure}
    (h : s.construct refused now files r = (files', .error failure)) : failure ≠ .cancelled := by
  rintro rfl
  rw [construct] at h
  split at h
  next cause _ =>
    have hcause := Except.error.inj (Prod.mk.inj h).2
    cases cause <;> cases hcause
  next =>
    split at h
    next => cases h
    next => cases Except.error.inj (Prod.mk.inj h).2

theorem Sound.succeeds {s : Service} (h : s.Sound) {job : Job}
    (hstage : s.queue.stage = .building job) {refused : Refusals} {now : Moment}
    {files files' : FileTree} {x : Snapshot}
    (hbuilt : s.construct refused now files job.request = (files', .ok x))
    (hbuild : s.build refused now files =
      ({ s with written := some (x, job.request.summary x) }, files')) :
    s.Succeeds job refused now files x := by
  obtain ⟨hindex, hx, hsave⟩ := of_construct hbuilt
  have hwritten :
      HasWritten s.queue job (x, job.request.summary x) (s.build refused now files).1 := by
    rw [hbuild]
    exact ⟨rfl, hstage, rfl⟩
  -- whatever happens before the publication, it finds what was written and the job
  have published : ∀ {steps : List (FileTree × Action)}, (∀ e ∈ steps, e.2 ≠ .publish) →
      _ := fun {steps} hsteps =>
    let later := after_written hwritten hsteps
    publish_of_some later.written (Stage.job?_eq_some_iff.2 later.stage)
  refine ⟨hindex, ?_, by rw [hbuild], fun hstorable => ?_, fun hsteps => ?_, fun hsteps => ?_,
    fun hsteps hsteps' => ?_⟩
  · rw [hx]
    exact ⟨rfl, rfl⟩
  · rw [hbuild, Store.load_of_save hsave]
    exact Store.ofOctets_octets (h.linked_newIndex hindex) hstorable (by rw [hx])
  · exact (after_written hwritten hsteps).silent
  · simp only
    rw [published hsteps]
    exact ⟨rfl, (after_written hwritten hsteps).silent⟩
  · refine after_told ?_ rfl hsteps'
    rw [published hsteps]
    refine ⟨rfl, fun _ hy => hy, rfl, ?_⟩
    rw [← (after_written hwritten hsteps).silent]
    rfl

theorem fails {s : Service} {job : Job} (hstage : s.queue.stage = .building job)
    (hwritten : s.written = none) {refused : Refusals} {now : Moment} {files files' : FileTree}
    {failure : BuildFailure}
    (hbuilt : s.construct refused now files job.request = (files', .error failure))
    (hbuild : s.build refused now files =
      ({ s with queue := s.queue.finish (.error failure) }, files')) :
    s.Fails job refused now files failure := by
  have hjob := Stage.job?_eq_some_iff.2 hstage
  have hkind : Outcome.isCancellation (.error failure) = false := by
    cases failure with
    | persistence cause => rfl
    | breakdown fault => rfl
    | cancelled => exact absurd rfl (ne_cancelled_of_construct hbuilt)
  refine ⟨by rw [hbuild], ?_, fun hsteps => ?_, fun {e} he => ?_, fun hrooted hdown => ?_⟩
  · rw [hbuild, Queue.finish_of_job hjob]
    rfl
  · refine after_told ?_ hkind hsteps
    rw [hbuild]
    exact ⟨hwritten, fun _ hx => hx, Queue.tells_finish hjob _⟩
  · rw [construct_error he] at hbuilt
    rw [hbuild]
    exact (Prod.mk.inj hbuilt).1.symm
  · rw [hbuild]
    obtain ⟨rfl, -⟩ | ⟨x, cause, -, hsave⟩ := of_construct_error hbuilt
    · rfl
    · exact Store.load_of_save_error hsave hrooted hdown

/-- **A build is all or nothing.**  It ends in one of the two ways, from every state of the service
and of the files, and whatever the machine refuses. -/
theorem build_all_or_nothing {store : Store} {rule : TermRule} {s : Service}
    (h : Reachable store rule s) {job : Job} (hstage : s.queue.stage = .building job)
    (hwritten : s.written = none) (refused : Refusals) (now : Moment) (files : FileTree) :
    (∃ x, s.Succeeds job refused now files x) ∨
      ∃ failure, s.Fails job refused now files failure := by
  have hjob := Stage.job?_eq_some_iff.2 hstage
  obtain ⟨-, idle⟩ | ⟨job', hjob', -, files', ⟨x, hbuilt, hb⟩ | ⟨failure, hbuilt, hb⟩⟩ :=
    s.of_build refused now files
  · rw [idle hwritten] at hjob
    cases hjob
  · obtain rfl := Option.some.inj (hjob.symm.trans hjob')
    exact .inl ⟨x, (sound_of_reachable h).succeeds hstage hbuilt hb⟩
  · obtain rfl := Option.some.inj (hjob.symm.trans hjob')
    exact .inr ⟨failure, fails hstage hwritten hbuilt hb⟩

/-! ### Two builds -/

/-- A service in a directory that is about to build the index of some transcripts. -/
def fresh (dir : String) (ts : List Transcript) : Service :=
  (start ⟨dir.toList, []⟩ default).withQueue fun q => (q.run ts).take

theorem reachable_fresh (dir : String) (ts : List Transcript) :
    Reachable ⟨dir.toList, []⟩ default (fresh dir ts) :=
  (Reachable.start.act .empty (.run ts)).act .empty .take

/-- A session of one line. -/
def oneLine (timecode : Timecode) : Transcript := ⟨2015, 1, none, [⟨"a line".toList, timecode⟩]⟩

/-- A snapshot file that cannot be read, and a directory in the way of its draft. -/
def obstructed : FileTree where
  entries := .ofList [(["b".toList], .directory), (["b".toList, Store.fileName], .file []),
    (["b".toList, Store.draftName], .directory)]

/-- What is current and what a load gives are both new, or both as they were. -/
def AllOrNothing (s : Service) (job : Job) (refused : Refusals) (now : Moment) (files : FileTree) :
    Prop :=
  let w := s.build refused now files
  (∃ x, w.1.written = some (x, job.request.summary x) ∧ s.store.load .none w.2 = .ok x.truncated) ∨
    ∃ failure, w.1.queue.stage.outcome? = some (.error failure) ∧
      s.store.load .none w.2 = s.store.load .none files

/-- **The conditions are needed.**  A timecode may read back as its neighbour, and a save that fails
may have made the directory that a path with two dots leads through. -/
theorem build_leaves_traces :
    ¬ (fresh "index" [oneLine ⟨0x3E8C016278560FF1⟩]).AllOrNothing
        ⟨.full [oneLine ⟨0x3E8C016278560FF1⟩], [0]⟩ .none (.atSecond 0) .empty ∧
      ¬ (fresh "a/../b" []).AllOrNothing ⟨.full [], [0]⟩ .none (.atSecond 0) obstructed := by
  constructor
  · have unlike : ∀ w ∈ ((fresh "index" [oneLine ⟨0x3E8C016278560FF1⟩]).build .none (.atSecond 0)
        .empty).1.written, (fresh "index" []).store.load .none
          ((fresh "index" [oneLine ⟨0x3E8C016278560FF1⟩]).build .none (.atSecond 0) .empty).2 ≠
        .ok w.1.truncated := by decide +kernel
    have untold : ((fresh "index" [oneLine ⟨0x3E8C016278560FF1⟩]).build .none (.atSecond 0)
        .empty).1.queue.stage.outcome? = none := by decide
    rintro (⟨x, hw, hload⟩ | ⟨failure, ho, -⟩)
    · exact unlike _ hw hload
    · rw [untold] at ho
      cases ho
  · have unwritten :
        ((fresh "a/../b" []).build .none (.atSecond 0) obstructed).1.written = none := by
      decide
    have unlike : (fresh "a/../b" []).store.load .none
          ((fresh "a/../b" []).build .none (.atSecond 0) obstructed).2 ≠
        (fresh "a/../b" []).store.load .none obstructed := by decide
    rintro (⟨x, hw, -⟩ | ⟨failure, -, hload⟩)
    · rw [unwritten] at hw
      cases hw
    · exact unlike hload

/-- A build that succeeds and one that fails, and what a load gives after them. -/
theorem fresh_all_or_nothing :
    (∃ x, (fresh "index" [oneLine ⟨0x3FF0000000000000⟩]).Succeeds
        ⟨.full [oneLine ⟨0x3FF0000000000000⟩], [0]⟩ .none (.atSecond 0) .empty x ∧
      (fresh "index" []).store.load .none
        ((fresh "index" [oneLine ⟨0x3FF0000000000000⟩]).build .none (.atSecond 0) .empty).2 =
        .ok x.truncated) ∧
    ∃ failure, (fresh "b" []).Fails ⟨.full [], [0]⟩ .none (.atSecond 0) obstructed failure ∧
      (fresh "b" []).store.load .none
        ((fresh "b" []).build .none (.atSecond 0) obstructed).2 =
        (fresh "b" []).store.load .none obstructed := by
  constructor
  · obtain ⟨x, hx⟩ | ⟨failure, hf⟩ := build_all_or_nothing
      (reachable_fresh "index" [oneLine ⟨0x3FF0000000000000⟩]) rfl rfl .none (.atSecond 0) .empty
    · have storable : (Index.build default [oneLine ⟨0x3FF0000000000000⟩]).Storable := by
        decide +kernel
      have index : x.index = .build default [oneLine ⟨0x3FF0000000000000⟩] :=
        (Except.ok.inj hx.index).symm
      exact ⟨x, hx, hx.load (index ▸ storable)⟩
    · have written : ((fresh "index" [oneLine ⟨0x3FF0000000000000⟩]).build .none (.atSecond 0)
          .empty).1.written.isSome = true := by decide
      rw [hf.memory] at written
      cases written
  · obtain ⟨x, hx⟩ | ⟨failure, hf⟩ := build_all_or_nothing (reachable_fresh "b" []) rfl rfl .none
      (.atSecond 0) obstructed
    · have unwritten : ((fresh "b" []).build .none (.atSecond 0) obstructed).1.written = none := by
        decide
      rw [hx.memory] at unwritten
      cases unwritten
    · have rooted : obstructed.IsRooted := FileTree.isRooted_of_entries (by decide)
      have down : obstructed.LeadsDown (fresh "b" []).store.directory.components :=
        FileTree.leadsDown_of_isStraight (by decide) obstructed
      exact ⟨failure, hf, hf.load rooted down⟩

end Service

end TranscriptSearch
