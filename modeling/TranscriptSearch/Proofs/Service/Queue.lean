import Mathlib.Logic.Function.Iterate
import TranscriptSearch.Service.Queue

/-!
# Service — what becomes of the requests

Of the queue two things decide what the next snapshots are: the request that waits and the one
that is being built.  Only a new request, the taking of the waiting one and the end of a build
touch them.

* `Stage.job?`, `Stage.outcome?`: the request that is being built, and how the last build ended.
* `Stage.carried`, `Stage.untold`: the callers of a build until they are told.
* `Queue.SameWork`: a change leaves both requests alone.
* `Queue.of_take`, `Queue.finish_of_job`, `Queue.of_collect`, `Queue.of_answer`, `Queue.of_notify`:
  what the steps of the worker do.
* `Queue.deliver_eq_iterate`: everybody is told, one after the other.
* `Queue.deliveries`: what the worker told; `Queue.Tells`: it tells the outcome of a build.
-/

namespace TranscriptSearch

namespace Stage

/-- The job that is being built. -/
def job? : Stage → Option Job
  | .building job => some job
  | _             => none

/-- How a build ended, until everybody was told and the worker came to rest. -/
def outcome? : Stage → Option Outcome
  | .ended _ outcome | .delivering outcome _ _ => some outcome
  | _                                          => none

theorem job?_eq_some_iff {stage : Stage} {job : Job} :
    stage.job? = some job ↔ stage = .building job := by
  cases stage <;> simp [job?]

theorem isIdle_iff {stage : Stage} : stage.isIdle = true ↔ stage = .idle := by
  cases stage <;> simp [isIdle]

/-- The build that has ended when its observers are not collected yet, and how it ended. -/
def ended? : Stage → Option (Job × Outcome)
  | .ended job outcome => some (job, outcome)
  | _                  => none

/-- The job of the build that is under way, until its observers are collected. -/
def underWay? : Stage → Option Job
  | .building job | .ended job _ => some job
  | _                            => none

/-- The callers that are left to be told an outcome. -/
def untold : Stage → List (Handle × Outcome)
  | .delivering outcome waiters _ => waiters.map fun h => (h, outcome)
  | _                             => []

/-- The callers that a build carries with it until they are told. -/
def carried : Stage → List Handle
  | .idle                                => []
  | .building job | .ended job _         => job.waiters
  | .delivering _ waiters _              => waiters

theorem ended?_eq_some_iff {stage : Stage} {e : Job × Outcome} :
    stage.ended? = some e ↔ stage = .ended e.1 e.2 := by
  obtain ⟨job, outcome⟩ := e
  cases stage <;> simp [ended?]

theorem outcome?_of_ended? {stage : Stage} {e : Job × Outcome} (h : stage.ended? = some e) :
    stage.outcome? = some e.2 := by
  rw [ended?_eq_some_iff.1 h]
  rfl

theorem mem_carried_iff {stage : Stage} {h : Handle} :
    h ∈ stage.carried ↔
      (∃ job ∈ stage.underWay?, h ∈ job.waiters) ∨ h ∈ stage.untold.map Prod.fst := by
  cases stage <;> simp [carried, underWay?, untold]

end Stage

/-- Whether an outcome is that of a request made after the shutdown. -/
def Outcome.isCancellation : Outcome → Bool
  | .error .cancelled => true
  | _                 => false

namespace Queue

/-! ### The steps of the worker -/

theorem answers_rest (q : Queue) : q.rest.answers = q.answers := by
  rw [rest]
  split <;> rfl

theorem subset_answers_enqueue (q : Queue) (fresh : Request) (join : Request → Request) :
    q.answers ⊆ (q.enqueue fresh join).answers := by
  rw [enqueue]
  split
  · exact List.subset_append_left ..
  · exact List.Subset.refl _

theorem of_take (q : Queue) :
    q.take = q ∨ ∃ job, q.stage = .idle ∧ q.pending = some job ∧
      q.take = { q with stage := .building job, pending := none } := by
  rw [take]
  split
  next job hs hp => exact .inr ⟨job, hs, hp, rfl⟩
  next => exact .inl rfl

theorem finish_of_job {q : Queue} {job : Job} (h : q.stage.job? = some job) (outcome : Outcome) :
    q.finish outcome = { q with stage := .ended job outcome } := by
  rw [finish, Stage.job?_eq_some_iff.1 h]

theorem of_collect (q : Queue) :
    q.collect = q ∨ ∃ job outcome, q.stage = .ended job outcome ∧
      q.collect =
        { q with stage := .delivering outcome job.waiters q.observers, observers := [] } := by
  rw [collect]
  split
  next job outcome hs => exact .inr ⟨job, outcome, hs, rfl⟩
  next => exact .inl rfl

theorem of_answer (q : Queue) :
    q.answer = q ∨ ∃ outcome h rest os, q.stage = .delivering outcome (h :: rest) os ∧
      q.answer = { q with
        stage := .delivering outcome rest os, answers := q.answers ++ [(h, outcome)] } := by
  rw [answer]
  split
  next outcome h rest os hs => exact .inr ⟨outcome, h, rest, os, hs, rfl⟩
  next => exact .inl rfl

theorem of_notify (q : Queue) :
    q.notify = q ∨ ∃ outcome o rest, q.stage = .delivering outcome [] (o :: rest) ∧
      q.notify = { q with
        stage := .delivering outcome [] rest, calls := q.calls ++ [(o, outcome)] } := by
  rw [notify]
  split
  next outcome o rest hs => exact .inr ⟨outcome, o, rest, hs, rfl⟩
  next => exact .inl rfl

theorem of_rest (q : Queue) :
    q.rest = q ∨ ∃ outcome, q.stage = .delivering outcome [] [] ∧
      q.rest = { q with stage := .idle } := by
  rw [rest]
  split
  next outcome hs => exact .inr ⟨outcome, hs, rfl⟩
  next => exact .inl rfl

/-! ### Changes that leave the requests alone -/

/-- The requests are the same, and no build has ended. -/
structure SameWork (q q' : Queue) : Prop where
  /-- The same request waits. -/
  pending : q'.pending = q.pending
  /-- The same request is being built. -/
  job : q'.stage.job? = q.stage.job?
  /-- An outcome that is being told was being told before. -/
  outcome : ∀ {o}, q'.stage.outcome? = some o → q.stage.outcome? = some o

theorem SameWork.refl (q : Queue) : q.SameWork q := ⟨rfl, rfl, id⟩

theorem SameWork.trans {q q' q'' : Queue} (h : q.SameWork q') (h' : q'.SameWork q'') :
    q.SameWork q'' :=
  ⟨h'.pending.trans h.pending, h'.job.trans h.job, fun ho => h.outcome (h'.outcome ho)⟩

theorem sameWork_observe (q : Queue) : q.SameWork q.observe := ⟨rfl, rfl, id⟩

theorem sameWork_shutDown (q : Queue) : q.SameWork q.shutDown := ⟨rfl, rfl, id⟩

theorem sameWork_collect (q : Queue) : q.SameWork q.collect := by
  obtain hq | ⟨job, outcome, hs, hq⟩ := q.of_collect
  · rw [hq]
    exact .refl q
  · rw [hq]
    exact ⟨rfl, by rw [hs]; rfl, by rw [hs]; exact id⟩

theorem sameWork_answer (q : Queue) : q.SameWork q.answer := by
  obtain hq | ⟨outcome, h, rest, os, hs, hq⟩ := q.of_answer
  · rw [hq]
    exact .refl q
  · rw [hq]
    exact ⟨rfl, by rw [hs]; rfl, by rw [hs]; exact id⟩

theorem sameWork_notify (q : Queue) : q.SameWork q.notify := by
  obtain hq | ⟨outcome, o, rest, hs, hq⟩ := q.of_notify
  · rw [hq]
    exact .refl q
  · rw [hq]
    exact ⟨rfl, by rw [hs]; rfl, by rw [hs]; exact id⟩

theorem sameWork_deliver (q : Queue) : q.SameWork q.deliver := by
  rw [deliver]
  split
  next hs => exact ⟨rfl, by rw [hs]; rfl, by rw [hs]; exact id⟩
  next => exact .refl q

theorem sameWork_rest (q : Queue) : q.SameWork q.rest := by
  obtain hq | ⟨outcome, hs, hq⟩ := q.of_rest
  · rw [hq]
    exact .refl q
  · rw [hq]
    exact ⟨rfl, by rw [hs]; rfl, nofun⟩

/-! ### Changes of the requests -/

theorem stage_enqueue (q : Queue) (fresh : Request) (join : Request → Request) :
    (q.enqueue fresh join).stage = q.stage := by
  rw [enqueue]
  split <;> rfl

theorem pending_enqueue (q : Queue) (fresh : Request) (join : Request → Request) :
    (q.enqueue fresh join).pending =
      if q.isShutDown then q.pending else some (joined q.pending fresh join q.handles) := by
  rw [enqueue]
  split <;> rfl

theorem pending_take_of_idle {q : Queue} (h : q.stage = .idle) : q.take.pending = none := by
  rw [take, h]
  cases hp : q.pending with
  | none => exact hp
  | some job => rfl

theorem pending_finish (q : Queue) (outcome : Outcome) :
    (q.finish outcome).pending = q.pending := by
  rw [finish]
  split <;> rfl

/-! ### From the end of a build to rest -/

/-- The callers are told one after the other. -/
theorem iterate_answer {q : Queue} {outcome : Outcome} {waiters : List Handle}
    {os : List Observer} (h : q.stage = .delivering outcome waiters os) :
    answer^[waiters.length] q = { q with
      stage := .delivering outcome [] os
      answers := q.answers ++ waiters.map fun a => (a, outcome) } := by
  induction waiters generalizing q with
  | nil =>
      rw [List.map_nil, List.append_nil, ← h]
      rfl
  | cons a waiters ih =>
      have next : q.answer = { q with
          stage := .delivering outcome waiters os, answers := q.answers ++ [(a, outcome)] } := by
        rw [answer, h]
      rw [List.length_cons, Function.iterate_succ_apply, next, ih rfl, List.map_cons,
        List.append_assoc]
      rfl

/-- So are the observers, when no caller is left. -/
theorem iterate_notify {q : Queue} {outcome : Outcome} {os : List Observer}
    (h : q.stage = .delivering outcome [] os) :
    notify^[os.length] q = { q with
      stage := .delivering outcome [] []
      calls := q.calls ++ os.map fun o => (o, outcome) } := by
  induction os generalizing q with
  | nil =>
      rw [List.map_nil, List.append_nil, ← h]
      rfl
  | cons o os ih =>
      have next : q.notify = { q with
          stage := .delivering outcome [] os, calls := q.calls ++ [(o, outcome)] } := by
        rw [notify, h]
      rw [List.length_cons, Function.iterate_succ_apply, next, ih rfl, List.map_cons,
        List.append_assoc]
      rfl

/-- **Everybody is told, one after the other**: the callers, and then the observers. -/
theorem deliver_eq_iterate (q : Queue) :
    ∃ callers observers, q.deliver = notify^[observers] (answer^[callers] q) := by
  rw [deliver]
  split
  next outcome waiters os hs =>
    exact ⟨waiters.length, os.length, by rw [iterate_answer hs, iterate_notify rfl]⟩
  next => exact ⟨0, 0, rfl⟩

/-- From the end of a build to rest: the callers are told, and then the observers. -/
theorem rest_of_ended {q : Queue} {job : Job} {outcome : Outcome}
    (h : q.stage = .ended job outcome) :
    q.collect.deliver.rest = { q with
      stage := .idle
      observers := []
      answers := q.answers ++ job.waiters.map fun a => (a, outcome)
      calls := q.calls ++ q.observers.map fun o => (o, outcome) } := by
  have collected : q.collect =
      { q with stage := .delivering outcome job.waiters q.observers, observers := [] } := by
    rw [collect, h]
  rw [collected, deliver, rest]

/-- At rest nobody is told anything. -/
theorem rest_of_idle {q : Queue} (h : q.stage = .idle) : q.collect.deliver.rest = q := by
  have collected : q.collect = q := by rw [collect, h]
  have delivered : q.deliver = q := by rw [deliver, h]
  rw [collected, delivered, rest, h]

/-- A queue with nothing to do comes to rest when everybody is told. -/
theorem isIdle_rest {q : Queue} (hjob : q.stage.job? = none) (hpending : q.pending = none) :
    q.collect.deliver.rest.isIdle = true := by
  have same := (sameWork_collect q).trans ((sameWork_deliver _).trans (sameWork_rest _))
  rw [isIdle, Bool.and_eq_true, Option.isNone_iff_eq_none]
  refine ⟨?_, same.pending.trans hpending⟩
  cases hs : q.stage with
  | idle => simp [collect, deliver, rest, hs, Stage.isIdle]
  | building job => rw [hs] at hjob; cases hjob
  | ended job outcome => simp [collect, deliver, rest, hs, Stage.isIdle]
  | delivering outcome waiters os => simp [collect, deliver, rest, hs, Stage.isIdle]

/-! ### What the worker tells -/

/-- What the worker told callers and observers.  Who asks after the shutdown is turned away without
the worker. -/
def deliveries (q : Queue) : List (Handle × Outcome) × List (Observer × Outcome) :=
  (q.answers.filter fun a => !Outcome.isCancellation a.2, q.calls)

theorem deliveries_enqueue (q : Queue) (fresh : Request) (join : Request → Request) :
    (q.enqueue fresh join).deliveries = q.deliveries := by
  rw [enqueue]
  split
  · simp [deliveries, Outcome.isCancellation]
  · rfl

/-- The worker has ended a build of a job and tells the outcome, beginning when some callers had
been told before. -/
structure Tells (job : Job) (outcome : Outcome) (before : List (Handle × Outcome)) (q : Queue) :
    Prop where
  /-- The build ended like this, and the worker has not come to rest. -/
  ended : q.stage.outcome? = some outcome
  /-- Those who were told and those who are left to be told are all who waited, in their order. -/
  callers : q.deliveries.1 ++ q.stage.carried.map (fun h => (h, outcome)) =
    before ++ job.waiters.map fun h => (h, outcome)

theorem tells_finish {q : Queue} {job : Job} (h : q.stage.job? = some job) (outcome : Outcome) :
    (q.finish outcome).Tells job outcome q.deliveries.1 := by
  rw [finish_of_job h]
  exact ⟨rfl, rfl⟩

namespace Tells

variable {q : Queue} {job : Job} {outcome : Outcome} {before : List (Handle × Outcome)}

theorem enqueue (h : q.Tells job outcome before) (fresh : Request) (join : Request → Request) :
    (q.enqueue fresh join).Tells job outcome before := by
  refine ⟨?_, ?_⟩
  · rw [stage_enqueue]
    exact h.ended
  · rw [deliveries_enqueue, stage_enqueue]
    exact h.callers

theorem take (h : q.Tells job outcome before) : q.take.Tells job outcome before := by
  obtain hq | ⟨job', hs, -⟩ := q.of_take
  · rwa [hq]
  · have := h.ended
    rw [hs] at this
    cases this

theorem collect (h : q.Tells job outcome before) : q.collect.Tells job outcome before := by
  obtain hq | ⟨job', outcome', hs, hq⟩ := q.of_collect
  · rwa [hq]
  · obtain ⟨ho, hc⟩ := h
    rw [hs] at ho hc
    rw [hq]
    exact ⟨ho, hc⟩

/-- The next caller joins those who were told. -/
theorem answer (h : q.Tells job outcome before) (hkind : outcome.isCancellation = false) :
    q.answer.Tells job outcome before := by
  obtain hq | ⟨outcome', a, rest, os, hs, hq⟩ := q.of_answer
  · rwa [hq]
  · obtain ⟨ho, hc⟩ := h
    rw [hs] at ho hc
    obtain rfl := Option.some.inj ho
    refine ⟨by rw [hq]; rfl, ?_⟩
    rw [hq, ← hc, deliveries, List.filter_append, List.filter_cons_of_pos (by rw [hkind]; rfl),
      List.append_assoc]
    rfl

theorem notify (h : q.Tells job outcome before) : q.notify.Tells job outcome before := by
  obtain hq | ⟨outcome', o, rest, hs, hq⟩ := q.of_notify
  · rwa [hq]
  · obtain ⟨ho, hc⟩ := h
    rw [hs] at ho hc
    rw [hq]
    exact ⟨ho, hc⟩

end Tells

/-! ### The shutdown -/

theorem isShutDown_enqueue (q : Queue) (fresh : Request) (join : Request → Request) :
    (q.enqueue fresh join).isShutDown = q.isShutDown := by
  rw [enqueue]
  split <;> rfl

theorem isShutDown_take (q : Queue) : q.take.isShutDown = q.isShutDown := by
  rw [take]
  split <;> rfl

theorem isShutDown_finish (q : Queue) (outcome : Outcome) :
    (q.finish outcome).isShutDown = q.isShutDown := by
  rw [finish]
  split <;> rfl

theorem isShutDown_collect (q : Queue) : q.collect.isShutDown = q.isShutDown := by
  rw [collect]
  split <;> rfl

theorem isShutDown_answer (q : Queue) : q.answer.isShutDown = q.isShutDown := by
  rw [answer]
  split <;> rfl

theorem isShutDown_notify (q : Queue) : q.notify.isShutDown = q.isShutDown := by
  rw [notify]
  split <;> rfl

theorem isShutDown_deliver (q : Queue) : q.deliver.isShutDown = q.isShutDown := by
  rw [deliver]
  split <;> rfl

theorem isShutDown_rest (q : Queue) : q.rest.isShutDown = q.isShutDown := by
  rw [rest]
  split <;> rfl

end Queue

end TranscriptSearch
