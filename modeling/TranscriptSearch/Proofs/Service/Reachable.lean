import TranscriptSearch.Service.Run
import TranscriptSearch.Proofs.Service.Queue
import TranscriptSearch.Proofs.Service.Request
import TranscriptSearch.Proofs.Snapshot.Store

/-!
# Service — the states of a service

A service is reachable when it came about by actions of callers and of the worker, in any order
and whatever happened to the files between them.

* `Service.Sound`: what holds of every reachable service.  Its indexes are linked, a snapshot is
  written only for a request that is being built, and from the end of a build that succeeded until
  everybody was told the current snapshot is the one that is told of.
* `Action.ReadsUnder`: what a reader may be refused.
* `Service.Sound.act`: every action keeps a service sound.
* `Service.sound_of_reachable`: every reachable service is sound.
* `Service.complete_eq_perform`: what the worker does for a request is some of its actions.
-/

namespace TranscriptSearch

namespace Action

/-- What the machine refuses to a reader is among these. -/
def ReadsUnder (allowed : Refusals → Prop) : Action → Prop
  | .read refused | .fetch refused _ => allowed refused
  | _                                => True

/-- The machine lets a reader read the file. -/
abbrev ReadsFile : Action → Prop := ReadsUnder fun refused => refused .read = false

theorem readsUnder_true (a : Action) : a.ReadsUnder fun _ => True := by
  cases a <;> exact trivial

end Action

namespace Service

/-- A service after any actions, whatever happened to the files in between. -/
inductive Reachable (store : Store) (rule : TermRule) : Service → Prop where
  /-- The service that has done nothing yet. -/
  | start : Reachable store rule (start store rule)
  /-- The service after one more action. -/
  | act {s : Service} (h : Reachable store rule s) (files : FileTree) (a : Action) :
      Reachable store rule (act (s, files) a).1

/-- What holds of every reachable service. -/
structure Sound (s : Service) : Prop where
  /-- The current index is linked. -/
  current : ∀ x ∈ s.current, x.index.Linked
  /-- A written snapshot is that of the request that is being built, and its index is linked. -/
  written : ∀ w ∈ s.written, w.1.index.Linked ∧
    ∃ job ∈ s.queue.stage.job?, w.2 = job.request.summary w.1
  /-- An index that a reader holds is linked. -/
  readers : ∀ {x}, Reader.holding (.ok x) ∈ s.readers → x.index.Linked
  /-- Every transcript of the waiting request is under its own key. -/
  pending : ∀ job ∈ s.queue.pending, job.request.IsKeyed
  /-- Every transcript of the request that is being built is under its own key. -/
  building : ∀ job ∈ s.queue.stage.job?, job.request.IsKeyed
  /-- A success that is told, or about to be told, is that of the current snapshot. -/
  told : ∀ {summary}, s.queue.stage.outcome? = some (.ok summary) →
    ∃ x ∈ s.current, ∃ r : Request, summary = r.summary x

theorem sound_start (store : Store) (rule : TermRule) : (start store rule).Sound where
  current := nofun
  written := nofun
  readers := nofun
  pending := nofun
  building := nofun
  told := nofun

/-! ### The worker's build -/

/-- A service without a snapshot starts from what a load gives, or from nothing. -/
theorem of_base {s : Service} (h : s.current = none) {refused : Refusals} {files : FileTree}
    {x : Index} (hx : s.base refused files = .ok x) :
    (∃ y, s.store.load refused files = .ok y ∧ x = y.index) ∨
      ∃ place, s.store.load refused files = .error (.error (.missing place)) ∧
        x = .empty s.rule := by
  rw [base, h] at hx
  split at hx
  next y hy => cases hy
  next =>
    split at hx
    next y hload => cases hx; exact .inl ⟨y, hload, rfl⟩
    next place hload => cases hx; exact .inr ⟨place, hload, rfl⟩
    next => cases hx

/-- What was written is what the request leads to. -/
theorem of_construct {s : Service} {refused : Refusals} {now : Moment} {files files' : FileTree}
    {r : Request} {x : Snapshot} (h : s.construct refused now files r = (files', .ok x)) :
    s.newIndex refused files r = .ok x.index ∧ x = ⟨x.index, now, s.store.fingerprint⟩ ∧
      s.store.save refused files x = (files', none) := by
  rw [construct] at h
  split at h
  next => cases h
  next y hy =>
    split at h
    next hsave => cases h; exact ⟨hy, rfl, hsave⟩
    next => cases h

theorem construct_error {s : Service} {refused : Refusals} {now : Moment} {files : FileTree}
    {r : Request} {failure : LoadFailure} (h : s.newIndex refused files r = .error failure) :
    s.construct refused now files r = (files, .error failure.buildFailure) := by
  rw [construct, h]

/-- **What a build does.**  Nothing when it is out of turn; else it writes a snapshot, or it ends
with a failure. -/
theorem of_build (s : Service) (refused : Refusals) (now : Moment) (files : FileTree) :
    (s.build refused now files = (s, files) ∧
      (s.written = none → s.queue.stage.job? = none)) ∨
    ∃ job, s.queue.stage.job? = some job ∧ s.written = none ∧ ∃ files',
      (∃ x, s.construct refused now files job.request = (files', .ok x) ∧
        s.build refused now files =
          ({ s with written := some (x, job.request.summary x) }, files')) ∨
      ∃ failure, s.construct refused now files job.request = (files', .error failure) ∧
        s.build refused now files =
          ({ s with queue := s.queue.finish (.error failure) }, files') := by
  rw [build]
  split
  next job hstage hwritten =>
    refine .inr ⟨job, Stage.job?_eq_some_iff.2 hstage, hwritten, ?_⟩
    split
    next files' x hbuilt => exact ⟨files', .inl ⟨x, hbuilt, rfl⟩⟩
    next files' failure hbuilt => exact ⟨files', .inr ⟨failure, hbuilt, rfl⟩⟩
  next hturn =>
    refine .inl ⟨rfl, fun hwritten => ?_⟩
    cases hjob : s.queue.stage.job? with
    | none => rfl
    | some job => exact absurd hwritten (hturn job (Stage.job?_eq_some_iff.1 hjob))

/-- A written snapshot becomes current, and nobody is told yet. -/
theorem publish_of_some {s : Service} {job : Job} {x : Snapshot} {summary : BuildSummary}
    (hw : s.written = some (x, summary)) (hjob : s.queue.stage.job? = some job) :
    s.publish =
      { s with
        current := some x
        hasTried := true
        written := none
        queue := { s.queue with stage := .ended job (.ok summary) } } := by
  rw [publish, hw]
  simp only
  rw [Queue.finish_of_job hjob]

theorem publish_of_none {s : Service} (hw : s.written = none) : s.publish = s := by
  rw [publish, hw]

namespace Sound

variable {s : Service}

/-! ### Callers and observers -/

theorem withQueue (h : s.Sound) {change : Queue → Queue}
    (hwork : s.queue.SameWork (change s.queue)) : (s.withQueue change).Sound where
  current := h.current
  written w hw := by
    obtain ⟨hx, job, hjob, hsummary⟩ := h.written w hw
    exact ⟨hx, job, hwork.job ▸ hjob, hsummary⟩
  readers := h.readers
  pending job hjob := h.pending job (hwork.pending ▸ hjob)
  building job hjob := h.building job (hwork.job ▸ hjob)
  told ho := h.told (hwork.outcome ho)

theorem enqueue (h : s.Sound) (fresh : Request) {join : Request → Request} (hfresh : fresh.IsKeyed)
    (hjoin : ∀ {r : Request}, r.IsKeyed → (join r).IsKeyed) :
    (s.withQueue fun q => q.enqueue fresh join).Sound where
  current := h.current
  written w hw := by
    obtain ⟨hx, job, hjob, hsummary⟩ := h.written w hw
    refine ⟨hx, job, ?_, hsummary⟩
    rw [Service.withQueue, Queue.stage_enqueue]
    exact hjob
  readers := h.readers
  pending job hjob := by
    rw [Service.withQueue, Queue.pending_enqueue] at hjob
    split at hjob
    · exact h.pending job hjob
    · obtain rfl := Option.some.inj hjob
      cases hp : s.queue.pending with
      | none => exact hfresh
      | some waiting => exact hjoin (h.pending waiting hp)
  building job hjob := by
    rw [Service.withQueue, Queue.stage_enqueue] at hjob
    exact h.building job hjob
  told ho := by
    rw [Service.withQueue, Queue.stage_enqueue] at ho
    exact h.told ho

/-! ### Readers -/

/-- A linked snapshot takes its place where there was none. -/
theorem install (h : s.Sound) {x : Snapshot} (hx : x.index.Linked) :
    { s with current := some (s.current.getD x) : Service }.Sound where
  current y hy := by
    obtain rfl := Option.some.inj hy
    cases hc : s.current with
    | none => exact hx
    | some z => exact h.current z hc
  written := h.written
  readers := h.readers
  pending := h.pending
  building := h.building
  told ho := by
    obtain ⟨y, hy, hsummary⟩ := h.told ho
    exact ⟨y, by rw [Option.mem_def.1 hy]; rfl, hsummary⟩

theorem withReaders (h : s.Sound) {readers : List Reader}
    (hreaders : ∀ {x}, Reader.holding (.ok x) ∈ readers → x.index.Linked) :
    { s with readers := readers : Service }.Sound where
  current := h.current
  written := h.written
  readers := hreaders
  pending := h.pending
  building := h.building
  told := h.told

theorem tried (h : s.Sound) : { s with hasTried := true : Service }.Sound where
  current := h.current
  written := h.written
  readers := h.readers
  pending := h.pending
  building := h.building
  told := h.told

theorem read (h : s.Sound) (refused : Refusals) (files : FileTree) :
    (s.read refused files).1.Sound := by
  rw [Service.read]
  split
  next => exact h
  next hc =>
    split
    next => exact h
    next =>
      split
      next x hload =>
        have := h.install (Store.linked_of_load hload)
        rwa [hc] at this
      next => exact h.tried
      next => exact h

theorem look (h : s.Sound) : s.look.Sound := by
  rw [Service.look]
  split
  next =>
    refine h.withReaders fun {x} hx => ?_
    rcases List.mem_append.1 hx with hx | hx
    · exact h.readers hx
    · cases List.mem_singleton.1 hx
  next => exact h

theorem fetch (h : s.Sound) (refused : Refusals) (files : FileTree) (i : Nat) :
    (s.fetch refused files i).Sound := by
  rw [Service.fetch]
  split
  next =>
    refine h.withReaders fun {x} hx => ?_
    rcases List.mem_or_eq_of_mem_set hx with hx | hx
    · exact h.readers hx
    · injection hx with hx
      exact Store.linked_of_load hx.symm
  next => exact h

theorem settle (h : s.Sound) (i : Nat) : (s.settle i).Sound := by
  have left : ∀ {x}, Reader.holding (.ok x) ∈ s.readers.eraseIdx i → x.index.Linked :=
    fun hx => h.readers (List.mem_of_mem_eraseIdx hx)
  rw [Service.settle]
  split
  next x hi => exact (h.install (h.readers (List.mem_of_getElem? hi))).withReaders left
  next =>
    refine h.tried.withReaders fun {x} hx => ?_
    rcases List.mem_or_eq_of_mem_set hx with hx | hx
    · exact h.readers hx
    · cases hx
  next => exact h.withReaders left
  next => exact h

theorem leave (h : s.Sound) (i : Nat) : (s.leave i).Sound := by
  rw [Service.leave]
  split
  next => exact h.withReaders fun hx => h.readers (List.mem_of_mem_eraseIdx hx)
  next => exact h

/-! ### The worker -/

theorem take (h : s.Sound) : (s.withQueue Queue.take).Sound := by
  obtain hq | ⟨job, hstage, hpending, hq⟩ := s.queue.of_take
  · exact h.withQueue (by rw [hq]; exact .refl _)
  · have idle : s.queue.stage.job? = none := by rw [hstage]; rfl
    rw [Service.withQueue, hq]
    refine ⟨h.current, fun w hw => ?_, h.readers, nofun, fun job' hjob' => ?_, nofun⟩
    · obtain ⟨-, job', hjob', -⟩ := h.written w hw
      rw [idle] at hjob'
      cases hjob'
    · obtain rfl := Option.some.inj hjob'
      exact h.pending job hpending

theorem linked_base (h : s.Sound) {refused : Refusals} {files : FileTree} {x : Index}
    (hx : s.base refused files = .ok x) : x.Linked := by
  rw [Service.base] at hx
  split at hx
  next y hy => cases hx; exact h.current y hy
  next =>
    split at hx
    next hload => cases hx; exact Store.linked_of_load hload
    next => cases hx; exact Index.linked_empty s.rule
    next => cases hx

theorem linked_newIndex (h : s.Sound) {refused : Refusals} {files : FileTree} {r : Request}
    {x : Index} (hx : s.newIndex refused files r = .ok x) : x.Linked := by
  cases r with
  | full ts =>
      cases hx
      exact Index.linked_build s.rule ts
  | incremental m =>
      rw [Service.newIndex] at hx
      cases hb : s.base refused files with
      | error e => rw [hb] at hx; cases hx
      | ok y => rw [hb] at hx; cases hx; exact (h.linked_base hb).merge m.values

theorem build (h : s.Sound) (refused : Refusals) (now : Moment) (files : FileTree) :
    (s.build refused now files).1.Sound := by
  obtain ⟨hb, -⟩ | ⟨job, hjob, hwritten, files', ⟨x, hbuilt, hb⟩ | ⟨failure, hbuilt, hb⟩⟩ :=
    s.of_build refused now files
  · rw [hb]
    exact h
  · rw [hb]
    refine ⟨h.current, fun w hw => ?_, h.readers, h.pending, h.building, h.told⟩
    obtain rfl := Option.some.inj hw
    exact ⟨h.linked_newIndex (of_construct hbuilt).1, job, hjob, rfl⟩
  · rw [hb]
    refine ⟨h.current, by rw [hwritten]; exact nofun, h.readers, ?_, ?_, ?_⟩
    · rw [Queue.pending_finish]
      exact h.pending
    · rw [Queue.finish_of_job hjob]
      exact nofun
    · rw [Queue.finish_of_job hjob]
      rintro _ ⟨⟩

theorem publish (h : s.Sound) : s.publish.Sound := by
  cases hw : s.written with
  | none => rwa [publish_of_none hw]
  | some w =>
      obtain ⟨x, summary⟩ := w
      obtain ⟨hx, job, hjob, hsummary⟩ := h.written _ hw
      rw [publish_of_some hw hjob]
      refine ⟨?_, nofun, h.readers, h.pending, nofun, ?_⟩
      · rintro y ⟨⟩
        exact hx
      · rintro _ ⟨⟩
        exact ⟨x, rfl, job.request, hsummary⟩

/-! ### All actions -/

/-- **One action.** -/
theorem act (h : s.Sound) (files : FileTree) (a : Action) : (Service.act (s, files) a).1.Sound := by
  cases a with
  | run ts => exact h.enqueue (.full ts) trivial fun _ => trivial
  | update changed =>
      exact h.enqueue _ (Request.isKeyed_ofChanged changed) fun hr => hr.fold changed
  | observe => exact h.withQueue (Queue.sameWork_observe _)
  | read refused => exact h.read refused files
  | look => exact h.look
  | fetch refused i => exact h.fetch refused files i
  | settle i => exact h.settle i
  | leave i => exact h.leave i
  | shutDown => exact h.withQueue (Queue.sameWork_shutDown _)
  | take => exact h.take
  | build refused now => exact h.build refused now files
  | publish => exact h.publish
  | collect => exact h.withQueue (Queue.sameWork_collect _)
  | answer => exact h.withQueue (Queue.sameWork_answer _)
  | notify => exact h.withQueue (Queue.sameWork_notify _)
  | rest => exact h.withQueue (Queue.sameWork_rest _)

end Sound

/-- **Every reachable service is sound.** -/
theorem sound_of_reachable {store : Store} {rule : TermRule} {s : Service}
    (h : Reachable store rule s) : s.Sound := by
  induction h with
  | start => exact sound_start store rule
  | act _ files a ih => exact ih.act files a

/-- What is reached by actions from a reachable service is reachable. -/
theorem Reachable.perform {store : Store} {rule : TermRule} {w : Service × FileTree}
    (h : Reachable store rule w.1) (actions : List Action) :
    Reachable store rule (Service.perform w actions).1 := by
  induction actions generalizing w with
  | nil => exact h
  | cons a actions ih => exact ih (h.act w.2 a)

/-- One action of the worker on the queue alone, some times. -/
theorem perform_replicate {a : Action} {change : Queue → Queue}
    (ha : ∀ w, Service.act w a = (w.1.withQueue change, w.2)) (w : Service × FileTree) (n : Nat) :
    Service.perform w (List.replicate n a) = (w.1.withQueue change^[n], w.2) := by
  induction n generalizing w with
  | zero => rfl
  | succ n ih =>
      rw [List.replicate_succ, Service.perform, List.foldl_cons, ha]
      exact ih _

/-- **The worker deals with a request by some of its actions.** -/
theorem complete_eq_perform (refused : Refusals) (now : Moment) (w : Service × FileTree) :
    ∃ callers observers, complete refused now w = Service.perform w
      ([.take, .build refused now, .publish, .collect] ++ List.replicate callers .answer ++
        List.replicate observers .notify ++ [.rest]) := by
  have split : ∀ w actions more, Service.perform w (actions ++ more) =
      Service.perform (Service.perform w actions) more := fun _ _ _ => List.foldl_append
  obtain ⟨t, ht⟩ : ∃ t, Service.perform w [.take, .build refused now, .publish, .collect] = t :=
    ⟨_, rfl⟩
  obtain ⟨callers, observers, told⟩ := Queue.deliver_eq_iterate t.1.queue
  refine ⟨callers, observers, ?_⟩
  rw [split, split, split, complete, ht, perform_replicate (a := .answer) fun _ => rfl,
    perform_replicate (a := .notify) fun _ => rfl]
  exact Prod.ext (congrArg (fun q => t.1.withQueue fun _ => q.rest) told) rfl

end Service

end TranscriptSearch
