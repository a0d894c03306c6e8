import Mathlib.Data.List.Perm.Basic
import TranscriptSearch.Proofs.Service.Queue

/-!
# Service — what happens to a queue

Callers ask, the worker takes what waits, builds, and tells how the build ended; callers may shut
the queue down, and after that the worker stops as soon as nothing waits.  All this happens in any
order.  A course is a queue together with what has happened to it.

* `Course.step`, `Course.after`: a course after one event and after some.
* `Job.Does`: a job does what those who wait for it asked for.
* `Queue.SameCallers`: an event leaves the jobs alone, and who was told and who is about to be told
  are together the same.
* `Course.Kept`: what every event keeps.  The jobs that ended, the one that is under way and the
  one that waits have as waiters, in order, all who asked before the shutdown.
* `Course.Kept.step`, `Course.kept_after`: one event, and every course.
-/

namespace TranscriptSearch

/-! ### Requests -/

/-- What a caller asks for. -/
inductive Ask where
  /-- A build of all transcripts. -/
  | run (transcripts : List Transcript)
  /-- A build with changed transcripts. -/
  | update (changed : List Transcript)

namespace Ask

/-- The request that waits when none waited before. -/
def fresh : Ask → Request
  | .run transcripts => .full transcripts
  | .update changed  => .ofChanged changed

/-- The request that waits when one waited before. -/
def join : Ask → Request → Request
  | .run transcripts, _    => .full transcripts
  | .update changed, waiting => waiting.fold changed

/-- The request that several callers, one after the other, make together. -/
def folded? : List Ask → Option Request
  | []        => none
  | a :: rest => some (rest.foldl (fun waiting a => a.join waiting) a.fresh)

theorem folded?_concat {asks : List Ask} {r : Request} (h : folded? asks = some r) (a : Ask) :
    folded? (asks ++ [a]) = some (a.join r) := by
  cases asks with
  | nil => cases h
  | cons b rest =>
      obtain rfl := Option.some.inj h
      rw [List.cons_append, folded?, List.foldl_append]
      rfl

end Ask

/-- A job does what those who wait for it asked for, folded in the order in which they asked. -/
def Job.Does (job : Job) (asked : List Ask) : Prop :=
  Ask.folded? (job.waiters.filterMap fun h => asked[h]?) = some job.request

namespace Queue

/-- The queue after a caller asked. -/
def ask (q : Queue) : Ask → Queue
  | .run transcripts => q.run transcripts
  | .update changed  => q.update changed

theorem ask_eq (q : Queue) (a : Ask) : q.ask a = q.enqueue a.fresh a.join := by
  cases a <;> rfl

/-- After the shutdown a caller is told at once. -/
theorem ask_of_shut {q : Queue} (h : q.isShutDown = true) (a : Ask) :
    q.ask a = { q with
      handles := q.handles + 1
      answers := q.answers ++ [(q.handles, .error .cancelled)] } := by
  rw [ask_eq, enqueue, if_pos h]

/-- Before the shutdown a caller waits. -/
theorem ask_of_open {q : Queue} (h : q.isShutDown = false) (a : Ask) :
    q.ask a = { q with
      handles := q.handles + 1
      pending := some (joined q.pending a.fresh a.join q.handles) } := by
  rw [ask_eq, enqueue, if_neg (ne_true_of_eq_false h)]

/-- What is told last comes last. -/
theorem map_snd_filter_concat (l : List (Nat × Outcome)) (p : Nat × Outcome) (a : Nat) :
    ((l ++ [p]).filter fun e => e.1 = a).map Prod.snd =
      (l.filter fun e => e.1 = a).map Prod.snd ++ if p.1 = a then [p.2] else [] := by
  rw [List.filter_append, List.map_append]
  by_cases hp : p.1 = a
  · rw [if_pos hp, List.filter_cons_of_pos (by simpa using hp)]
    rfl
  · rw [if_neg hp, List.filter_cons_of_neg (by simpa using hp)]
    rfl

/-- What a caller was told, in order. -/
def told (q : Queue) (h : Handle) : List Outcome :=
  (q.answers.filter fun e => e.1 = h).map Prod.snd

theorem waiters_joined (waiting : Option Job) (fresh : Request) (join : Request → Request)
    (h : Handle) :
    (joined waiting fresh join h).waiters = waiting.toList.flatMap Job.waiters ++ [h] := by
  cases waiting with
  | none => rfl
  | some job => rw [Option.toList_some, List.flatMap_singleton]; rfl

/-- A request that joins the one that waits is folded into it. -/
theorem does_joined {waiting : Option Job} {asked : List Ask} {a : Ask} {h : Handle}
    (hw : ∀ job ∈ waiting, job.Does asked) (ha : asked[h]? = some a) :
    (joined waiting a.fresh a.join h).Does asked := by
  rw [Job.Does, waiters_joined, List.filterMap_append, List.filterMap_cons, ha, List.filterMap_nil]
  cases waiting with
  | none => rfl
  | some job =>
      rw [Option.toList_some, List.flatMap_singleton]
      exact Ask.folded?_concat (hw job rfl) a

/-- The job that the worker takes when it looks. -/
def next? (q : Queue) : Option Job := if q.stage.isIdle then q.pending else none

theorem take_of_none {q : Queue} (h : q.next? = none) : q.take = q := by
  obtain e | ⟨job, hs, hp, -⟩ := q.of_take
  · exact e
  · rw [next?, hs, hp] at h
    cases h

theorem take_of_some {q : Queue} {job : Job} (h : q.next? = some job) :
    q.stage = .idle ∧ q.pending = some job ∧
      q.take = { q with stage := .building job, pending := none } := by
  rw [next?] at h
  split at h
  next hs =>
    have hs := Stage.isIdle_iff.1 hs
    refine ⟨hs, h, ?_⟩
    rw [take, hs, h]
  next => cases h

theorem collect_of_none {q : Queue} (h : q.stage.ended? = none) : q.collect = q := by
  obtain e | ⟨job, outcome, hs, -⟩ := q.of_collect
  · exact e
  · rw [hs] at h
    cases h

/-! ### Changes that leave the callers alone -/

/-- The jobs are the same, and those who were told and those who are left to be told are together
the same; what was shut down or idle still is. -/
structure SameCallers (q q' : Queue) : Prop where
  /-- Nobody has asked. -/
  handles : q'.handles = q.handles
  /-- The same job waits. -/
  pending : q'.pending = q.pending
  /-- The same job is under way. -/
  underWay : q'.stage.underWay? = q.stage.underWay?
  /-- Who was told or is about to be told was so before. -/
  answers : q'.answers ++ q'.stage.untold = q.answers ++ q.stage.untold
  /-- Nobody else is about to be told. -/
  untold : q'.stage.untold ⊆ q.stage.untold
  /-- A shutdown is not taken back. -/
  shutDown : q.isShutDown = true → q'.isShutDown = true
  /-- What was idle is idle. -/
  idle : q.isIdle = true → q'.isIdle = true

theorem SameCallers.refl (q : Queue) : q.SameCallers q :=
  ⟨rfl, rfl, rfl, rfl, List.Subset.refl _, id, id⟩

theorem sameCallers_observe (q : Queue) : q.SameCallers q.observe :=
  ⟨rfl, rfl, rfl, rfl, List.Subset.refl _, id, id⟩

theorem sameCallers_shutDown (q : Queue) : q.SameCallers q.shutDown :=
  ⟨rfl, rfl, rfl, rfl, List.Subset.refl _, fun _ => rfl, id⟩

/-- A step of the worker at a stage at which it is not idle. -/
theorem sameCallers_of_stage {q q' : Queue} (hidle : q.stage.isIdle = false)
    (handles : q'.handles = q.handles) (pending : q'.pending = q.pending)
    (shutDown : q'.isShutDown = q.isShutDown)
    (underWay : q'.stage.underWay? = q.stage.underWay?)
    (answers : q'.answers ++ q'.stage.untold = q.answers ++ q.stage.untold)
    (untold : q'.stage.untold ⊆ q.stage.untold) : q.SameCallers q' where
  handles := handles
  pending := pending
  underWay := underWay
  answers := answers
  untold := untold
  shutDown h := shutDown.trans h
  idle h := by
    rw [isIdle, hidle] at h
    cases h

theorem sameCallers_finish (q : Queue) (outcome : Outcome) : q.SameCallers (q.finish outcome) := by
  rw [finish]
  split
  next job hs =>
    refine sameCallers_of_stage ?_ rfl rfl rfl ?_ ?_ ?_ <;> rw [hs]
    · rfl
    · rfl
    · rfl
    · exact List.Subset.refl _
  next => exact .refl q

/-- One who is told is no longer left to be told. -/
theorem sameCallers_answer (q : Queue) : q.SameCallers q.answer := by
  obtain hq | ⟨outcome, h, rest, os, hs, hq⟩ := q.of_answer
  · rw [hq]
    exact .refl q
  · rw [hq]
    refine sameCallers_of_stage ?_ rfl rfl rfl ?_ ?_ ?_ <;> rw [hs]
    · rfl
    · rfl
    · exact List.append_assoc ..
    · exact List.subset_cons_self ..

theorem sameCallers_notify (q : Queue) : q.SameCallers q.notify := by
  obtain hq | ⟨outcome, o, rest, hs, hq⟩ := q.of_notify
  · rw [hq]
    exact .refl q
  · rw [hq]
    refine sameCallers_of_stage ?_ rfl rfl rfl ?_ ?_ ?_ <;> rw [hs]
    · rfl
    · rfl
    · rfl
    · exact List.Subset.refl _

theorem sameCallers_rest (q : Queue) : q.SameCallers q.rest := by
  obtain hq | ⟨outcome, hs, hq⟩ := q.of_rest
  · rw [hq]
    exact .refl q
  · rw [hq]
    refine sameCallers_of_stage ?_ rfl rfl rfl ?_ ?_ ?_ <;> rw [hs]
    · rfl
    · rfl
    · rfl
    · exact List.Subset.refl _

end Queue

/-! ### Events -/

/-- What happens to a queue. -/
inductive Event where
  /-- A caller asks for a build. -/
  | ask (a : Ask)
  /-- A caller registers an observer. -/
  | observe
  /-- A caller shuts the queue down. -/
  | shutDown
  /-- The worker takes the request that waits. -/
  | take
  /-- The build that is under way ends. -/
  | finish (outcome : Outcome)
  /-- The worker collects the observers. -/
  | collect
  /-- The worker tells a caller. -/
  | answer
  /-- The worker tells an observer. -/
  | notify
  /-- The worker comes to rest. -/
  | rest
  /-- The worker stops. -/
  | stop

/-- A queue and what has happened to it. -/
structure Course where
  /-- The queue. -/
  queue : Queue
  /-- What was asked for, by handle. -/
  asked : List Ask
  /-- The number of requests that were made before the shutdown. -/
  early : Nat
  /-- The number of builds that have begun. -/
  begun : Nat
  /-- The builds that have ended, and how: those whose observers are collected. -/
  ended : List (Job × Outcome)
  /-- Whether the worker has stopped. -/
  hasStopped : Bool

namespace Course

/-- A queue to which nothing has happened. -/
def start : Course := ⟨.empty, [], 0, 0, [], false⟩

/-- The course after one more event.  An event out of turn changes nothing. -/
def step (c : Course) : Event → Course
  | .ask a =>
    { c with
      queue := c.queue.ask a
      asked := c.asked ++ [a]
      early := if c.queue.isShutDown then c.early else c.early + 1 }
  | .observe  => { c with queue := c.queue.observe }
  | .shutDown => { c with queue := c.queue.shutDown }
  | .take =>
    if c.hasStopped then c
    else { c with queue := c.queue.take, begun := c.begun + c.queue.next?.toList.length }
  | .finish outcome => { c with queue := c.queue.finish outcome }
  | .collect =>
    { c with queue := c.queue.collect, ended := c.ended ++ c.queue.stage.ended?.toList }
  | .answer => { c with queue := c.queue.answer }
  | .notify => { c with queue := c.queue.notify }
  | .rest   => { c with queue := c.queue.rest }
  | .stop   => { c with hasStopped := c.hasStopped || (c.queue.isIdle && c.queue.isShutDown) }

/-- The course after some events. -/
def after (c : Course) (events : List Event) : Course := events.foldl step c

/-! ### What every event keeps -/

/-- The jobs in the order in which they came up. -/
def jobs (c : Course) : List Job :=
  c.ended.map Prod.fst ++ (c.queue.stage.underWay?.toList ++ c.queue.pending.toList)

/-- What the callers of the ended builds are told. -/
def answered (c : Course) : List (Handle × Outcome) :=
  c.ended.flatMap fun e => e.1.waiters.map fun h => (h, e.2)

/-- What those were told who asked after the shutdown. -/
def turnedAway (c : Course) : List (Handle × Outcome) :=
  (List.range' c.early (c.queue.handles - c.early)).map fun h => (h, .error .cancelled)

/-- What every event keeps. -/
structure Kept (c : Course) : Prop where
  /-- Every request has a handle. -/
  asked : c.asked.length = c.queue.handles
  /-- Until the shutdown every request comes before it. -/
  early : c.early ≤ c.queue.handles
  /-- Until the shutdown every request comes before it. -/
  unshut : c.queue.isShutDown = false → c.early = c.queue.handles
  /-- The jobs have as waiters all who asked before the shutdown, in the order of the requests. -/
  waiters : c.jobs.flatMap Job.waiters = List.range c.early
  /-- A job does what its waiters asked for. -/
  folded : ∀ job ∈ c.jobs, job.Does c.asked
  /-- The callers of ended builds were told or are left to be told, and those who asked after the
  shutdown were told. -/
  answers : (c.queue.answers ++ c.queue.stage.untold).Perm (c.answered ++ c.turnedAway)
  /-- Those who are left to be told wait for the build that ended last. -/
  untold : ∀ p ∈ c.queue.stage.untold, ∃ e ∈ c.ended.getLast?, p.1 ∈ e.1.waiters ∧ p.2 = e.2
  /-- A build that has begun has ended or is under way. -/
  begun : c.begun = c.ended.length + c.queue.stage.underWay?.toList.length
  /-- The worker stops when there is nothing to do and nothing to come. -/
  stopped : c.hasStopped = true → c.queue.isIdle = true ∧ c.queue.isShutDown = true

theorem kept_start : start.Kept where
  asked := rfl
  early := Nat.le_refl 0
  unshut _ := rfl
  waiters := rfl
  folded := nofun
  answers := .nil
  untold := nofun
  begun := rfl
  stopped := nofun

namespace Kept

variable {c : Course}

theorem lt_of_mem_waiters (h : c.Kept) {job : Job} (hjob : job ∈ c.jobs) {a : Handle}
    (ha : a ∈ job.waiters) : a < c.early := by
  rw [← List.mem_range, ← h.waiters]
  exact List.mem_flatMap.2 ⟨job, hjob, ha⟩

/-- What is asked later is no matter to the jobs that are there. -/
theorem does_concat (h : c.Kept) (a : Ask) {job : Job} (hjob : job ∈ c.jobs) :
    job.Does (c.asked ++ [a]) := by
  rw [Job.Does, ← h.folded job hjob]
  congr 1
  refine List.filterMap_congr fun i hi => List.getElem?_append_left ?_
  rw [h.asked]
  exact Nat.lt_of_lt_of_le (h.lt_of_mem_waiters hjob hi) h.early

/-! ### Callers -/

/-- A change that leaves the callers alone. -/
theorem withQueue (h : c.Kept) {q : Queue} (hq : c.queue.SameCallers q) :
    { c with queue := q : Course }.Kept where
  asked := h.asked.trans hq.handles.symm
  early := hq.handles ▸ h.early
  unshut hopen' := by
    have hopen : c.queue.isShutDown = false := by
      cases hs : c.queue.isShutDown with
      | false => rfl
      | true => exact (hq.shutDown hs).symm.trans hopen'
    exact (h.unshut hopen).trans hq.handles.symm
  waiters := by
    have := h.waiters
    rwa [jobs, ← hq.underWay, ← hq.pending] at this
  folded := by
    have := h.folded
    rwa [jobs, ← hq.underWay, ← hq.pending] at this
  answers := by
    rw [hq.answers, turnedAway, hq.handles]
    exact h.answers
  untold p hp := h.untold p (hq.untold hp)
  begun := by
    rw [hq.underWay]
    exact h.begun
  stopped hs := ⟨hq.idle (h.stopped hs).1, hq.shutDown (h.stopped hs).2⟩

/-- Until the shutdown nobody is turned away. -/
theorem turnedAway_eq_nil {c : Course} (h : c.early = c.queue.handles) : c.turnedAway = [] := by
  rw [turnedAway, h, Nat.sub_self]
  rfl

theorem turnedAway_succ (h : c.early ≤ c.queue.handles) :
    (List.range' c.early (c.queue.handles + 1 - c.early)).map
        (fun h => ((h, .error .cancelled) : Handle × Outcome)) =
      c.turnedAway ++ [(c.queue.handles, .error .cancelled)] := by
  obtain ⟨n, hn⟩ := Nat.exists_eq_add_of_le h
  have more : c.queue.handles + 1 - c.early = n + 1 := by omega
  have less : c.queue.handles - c.early = n := by omega
  rw [turnedAway, more, less, List.range'_1_concat, List.map_append, List.map_singleton, hn]

/-- A request after the shutdown. -/
theorem ask_of_shut (h : c.Kept) (hshut : c.queue.isShutDown = true) (a : Ask) :
    (c.step (.ask a)).Kept := by
  rw [step, if_pos hshut, Queue.ask_of_shut hshut]
  refine ⟨?_, Nat.le_succ_of_le h.early, fun e => ?_, h.waiters, fun job hjob => ?_, ?_, h.untold,
    h.begun, h.stopped⟩
  · rw [List.length_append, h.asked]
    rfl
  · rw [hshut] at e
    cases e
  · exact h.does_concat a hjob
  · -- who is turned away is told at once, before those who are left to be told
    rw [turnedAway, turnedAway_succ h.early, ← List.append_assoc, List.append_assoc]
    refine (List.Perm.append_left _ List.perm_append_comm).trans ?_
    rw [← List.append_assoc]
    exact h.answers.append_right _

/-- A request before the shutdown joins the one that waits. -/
theorem ask_of_open (h : c.Kept) (hopen : c.queue.isShutDown = false) (a : Ask) :
    (c.step (.ask a)).Kept := by
  have hearly := h.unshut hopen
  rw [step, Queue.ask_of_open hopen, if_neg (ne_true_of_eq_false hopen)]
  refine ⟨?_, Nat.succ_le_succ h.early, fun _ => congrArg (· + 1) hearly, ?_, fun job hjob => ?_,
    ?_, h.untold, h.begun, fun hs => ?_⟩
  · rw [List.length_append, h.asked]
    rfl
  · have := h.waiters
    rw [jobs, ← List.append_assoc, List.flatMap_append] at this
    rw [jobs, ← List.append_assoc, List.flatMap_append, Option.toList_some, List.flatMap_singleton,
      Queue.waiters_joined, ← List.append_assoc, this, ← hearly]
    exact List.range_succ.symm
  · rw [jobs, ← List.append_assoc, List.mem_append, Option.toList_some, List.mem_singleton] at hjob
    rcases hjob with hjob | rfl
    · refine h.does_concat a ?_
      rw [jobs, ← List.append_assoc]
      exact List.mem_append_left _ hjob
    · refine Queue.does_joined (fun job hjob => h.does_concat a ?_) ?_
      · rw [jobs, ← List.append_assoc]
        exact List.mem_append_right _ (Option.mem_toList.2 hjob)
      · rw [← h.asked]
        exact List.getElem?_concat_length
  · have := h.answers
    rw [turnedAway_eq_nil hearly] at this
    rw [turnedAway_eq_nil (congrArg (· + 1) hearly)]
    exact this
  · have := (h.stopped hs).2
    rw [hopen] at this
    cases this

theorem ask (h : c.Kept) (a : Ask) : (c.step (.ask a)).Kept := by
  cases hshut : c.queue.isShutDown with
  | true => exact h.ask_of_shut hshut a
  | false => exact h.ask_of_open hshut a

/-! ### The worker -/

theorem take (h : c.Kept) : (c.step .take).Kept := by
  rw [step]
  split
  next => exact h
  next hgoing =>
    cases hnext : c.queue.next? with
    | none =>
        rw [Queue.take_of_none hnext]
        exact h
    | some job =>
        obtain ⟨hstage, hpending, hq⟩ := Queue.take_of_some hnext
        -- the job moves from one place to the next, so that the list of jobs stays as it is
        have same : c.jobs = c.ended.map Prod.fst ++ ([job] ++ []) := by
          rw [jobs, hstage, hpending]
          rfl
        have still := h.answers
        rw [hstage] at still
        rw [hq]
        refine ⟨h.asked, h.early, h.unshut, (congrArg (List.flatMap Job.waiters) same).symm.trans
          h.waiters, fun j hj => h.folded j (by rw [same]; exact hj), still, nofun, ?_,
          fun hs => absurd hs hgoing⟩
        have := h.begun
        rw [hstage] at this
        exact congrArg (· + 1) this

/-- A build has ended when its observers are collected, and all its callers are left to be told. -/
theorem collect (h : c.Kept) : (c.step .collect).Kept := by
  rw [step]
  cases hended : c.queue.stage.ended? with
  | none =>
      rw [Queue.collect_of_none hended, Option.toList_none, List.append_nil]
      exact h
  | some e =>
      obtain ⟨job, outcome⟩ := e
      have hstage := Stage.ended?_eq_some_iff.1 hended
      have hq : c.queue.collect = { c.queue with
          stage := .delivering outcome job.waiters c.queue.observers, observers := [] } := by
        rw [Queue.collect, hstage]
      have same : c.jobs = (c.ended ++ [(job, outcome)]).map Prod.fst ++
          ([] ++ c.queue.pending.toList) := by
        rw [jobs, hstage, List.map_append, List.append_assoc]
        rfl
      have told : Course.answered { c with ended := c.ended ++ [(job, outcome)] } =
          c.answered ++ job.waiters.map fun h => (h, outcome) := by
        rw [answered, List.flatMap_append, List.flatMap_singleton]
        rfl
      have answers : (c.queue.answers ++ []).Perm (c.answered ++ c.turnedAway) := by
        have := h.answers
        rwa [hstage] at this
      rw [List.append_nil] at answers
      rw [hq]
      refine ⟨h.asked, h.early, h.unshut, (congrArg (List.flatMap Job.waiters) same).symm.trans
        h.waiters, fun j hj => h.folded j (by rw [same]; exact hj), ?_, fun p hp => ?_, ?_,
        fun hs => ?_⟩
      · refine ((answers.append_right _).trans ?_).trans (.of_eq (congrArg (· ++ _) told.symm))
        rw [List.append_assoc, List.append_assoc]
        exact List.perm_append_comm.append_left _
      · obtain ⟨a, ha, rfl⟩ := List.mem_map.1 hp
        exact ⟨_, List.getLast?_concat, ha, rfl⟩
      · rw [Option.toList_some, List.length_append, h.begun, hstage]
        rfl
      · have := (h.stopped hs).1
        rw [Queue.isIdle, hstage] at this
        cases this

theorem stop (h : c.Kept) : (c.step .stop).Kept where
  asked := h.asked
  early := h.early
  unshut := h.unshut
  waiters := h.waiters
  folded := h.folded
  answers := h.answers
  untold := h.untold
  begun := h.begun
  stopped hs := by
    rw [step, Bool.or_eq_true, Bool.and_eq_true] at hs
    exact hs.elim h.stopped id

/-! ### All events -/

/-- **One event.** -/
theorem step (h : c.Kept) (e : Event) : (c.step e).Kept := by
  cases e with
  | ask a => exact h.ask a
  | observe => exact h.withQueue (Queue.sameCallers_observe _)
  | shutDown => exact h.withQueue (Queue.sameCallers_shutDown _)
  | take => exact h.take
  | finish outcome => exact h.withQueue (Queue.sameCallers_finish _ outcome)
  | collect => exact h.collect
  | answer => exact h.withQueue (Queue.sameCallers_answer _)
  | notify => exact h.withQueue (Queue.sameCallers_notify _)
  | rest => exact h.withQueue (Queue.sameCallers_rest _)
  | stop => exact h.stop

end Kept

/-- **Every course.** -/
theorem kept_after (events : List Event) : (start.after events).Kept := by
  have run : ∀ {c : Course}, c.Kept → (c.after events).Kept := by
    induction events with
    | nil => exact id
    | cons e events ih => exact fun h => ih (h.step e)
  exact run kept_start

end Course

end TranscriptSearch
