import TranscriptSearch.Proofs.Service.Account

/-!
# Service — observers are told once

When a build ends, the observers that are registered are collected, and told of it one after the
other when the callers were told; whoever registers after that is told of the next build.  An
observer is a piece of somebody else's program: while it is told it may ask for builds and register
observers, and it may break down.

* `Stage.due`, `Queue.heard`: the observers that are about to be told, and what one was told.
* `Course.Shift`: what an event can do to the observers.
* `Queue.Ordered`: observers are told in the order in which they registered, each of them once.
* `Course.Phase`: an observer waits, is about to be told, or was told; `Phase.shift`: one event.
* `Course.deliver`: the worker tells everybody, whatever they do.
* `Service.observers_told_once`: what every observer is told.
-/

namespace TranscriptSearch

/-! ### What there is to observers -/

/-- The observers that are about to be told. -/
def Stage.due : Stage → List Observer
  | .delivering _ _ os => os
  | _                  => []

namespace Queue

/-- What an observer was told, in order. -/
def heard (q : Queue) (o : Observer) : List Outcome :=
  (q.calls.filter fun e => e.1 = o).map Prod.snd

variable {q q' : Queue} {o : Observer}

theorem heard_eq_nil_iff : q.heard o = [] ↔ o ∉ q.calls.map Prod.fst := by
  rw [heard, List.map_eq_nil_iff, List.filter_eq_nil_iff]
  constructor
  · intro h hmem
    obtain ⟨e, he, rfl⟩ := List.mem_map.1 hmem
    exact h e he (decide_eq_true rfl)
  · intro h e he heo
    exact h (List.mem_map.2 ⟨e, he, of_decide_eq_true heo⟩)

theorem heard_concat {p : Observer} {outcome : Outcome} (h : q'.calls = q.calls ++ [(p, outcome)]) :
    q'.heard o = q.heard o ++ if p = o then [outcome] else [] := by
  rw [heard, heard, h, map_snd_filter_concat]

theorem heard_congr (h : q'.calls = q.calls) : q'.heard o = q.heard o := by
  rw [heard, h, heard]

/-- A change that leaves the observers alone. -/
structure SameObservers (q q' : Queue) : Prop where
  /-- Nobody has registered. -/
  registrations : q'.registrations = q.registrations
  /-- The same observers wait. -/
  observers : q'.observers = q.observers
  /-- Nobody was told anything. -/
  calls : q'.calls = q.calls
  /-- The same observers are about to be told. -/
  due : q'.stage.due = q.stage.due
  /-- They are about to be told the same. -/
  outcome : q.stage.due ≠ [] → q'.stage.outcome? = q.stage.outcome?

theorem SameObservers.refl (q : Queue) : q.SameObservers q := ⟨rfl, rfl, rfl, rfl, fun _ => rfl⟩

theorem sameObservers_enqueue (q : Queue) (fresh : Request) (join : Request → Request) :
    q.SameObservers (q.enqueue fresh join) := by
  rw [enqueue]
  split
  · exact ⟨rfl, rfl, rfl, rfl, fun _ => rfl⟩
  · exact ⟨rfl, rfl, rfl, rfl, fun _ => rfl⟩

theorem sameObservers_take (q : Queue) : q.SameObservers q.take := by
  obtain hq | ⟨job, hstage, -, hq⟩ := q.of_take
  · rw [hq]
    exact .refl q
  · rw [hq]
    exact ⟨rfl, rfl, rfl, by rw [hstage]; rfl, fun h => absurd (by rw [hstage]; rfl) h⟩

theorem sameObservers_finish (q : Queue) (outcome : Outcome) :
    q.SameObservers (q.finish outcome) := by
  rw [finish]
  split
  next job hstage =>
    exact ⟨rfl, rfl, rfl, by rw [hstage]; rfl, fun h => absurd (by rw [hstage]; rfl) h⟩
  next => exact .refl q

theorem sameObservers_answer (q : Queue) : q.SameObservers q.answer := by
  obtain hq | ⟨outcome, h, rest, os, hstage, hq⟩ := q.of_answer
  · rw [hq]
    exact .refl q
  · rw [hq]
    exact ⟨rfl, rfl, rfl, by rw [hstage]; rfl, fun _ => by rw [hstage]; rfl⟩

theorem sameObservers_rest (q : Queue) : q.SameObservers q.rest := by
  obtain hq | ⟨outcome, hstage, hq⟩ := q.of_rest
  · rw [hq]
    exact .refl q
  · rw [hq]
    exact ⟨rfl, rfl, rfl, by rw [hstage]; rfl, fun h => absurd (by rw [hstage]; rfl) h⟩

/-- Those who were told, those who are about to be told and those who wait are all who registered,
in their order. -/
def Ordered (q : Queue) : Prop :=
  q.calls.map Prod.fst ++ (q.stage.due ++ q.observers) = List.range q.registrations

namespace Ordered

theorem nodup (h : q.Ordered) : (q.calls.map Prod.fst ++ (q.stage.due ++ q.observers)).Nodup :=
  h.symm ▸ List.nodup_range

/-- Who is about to be told or waits has heard nothing. -/
theorem heard_eq_nil (h : q.Ordered) (ho : o ∈ q.stage.due ∨ o ∈ q.observers) : q.heard o = [] := by
  rw [heard_eq_nil_iff]
  exact fun hc => (List.nodup_append.1 h.nodup).2.2 o hc o (List.mem_append.2 ho) rfl

theorem not_mem_due (h : q.Ordered) (ho : o ∈ q.observers) : o ∉ q.stage.due := fun hd =>
  (List.nodup_append.1 (List.nodup_append.1 h.nodup).2.1).2.2 o hd o ho rfl

end Ordered

end Queue

namespace Course

open Queue

/-! ### What an event does to observers -/

/-- What an event can do to the observers. -/
inductive Shift (c c' : Course) : Prop
  /-- Nothing. -/
  | quiet (hq : c.queue.SameObservers c'.queue) (hended : c'.ended = c.ended)
  /-- One more observer waits. -/
  | joins (hq : c'.queue = c.queue.observe) (hended : c'.ended = c.ended)
  /-- A build has ended, and all who wait are about to be told. -/
  | ends {job : Job} {outcome : Outcome} (hstage : c.queue.stage = .ended job outcome)
      (hstage' : c'.queue.stage = .delivering outcome job.waiters c.queue.observers)
      (hobservers : c'.queue.observers = []) (hcalls : c'.queue.calls = c.queue.calls)
      (hregistrations : c'.queue.registrations = c.queue.registrations)
      (hended : c'.ended = c.ended ++ [(job, outcome)])
  /-- The next one is told. -/
  | tells {outcome : Outcome} {o : Observer} {os : List Observer}
      (hstage : c.queue.stage = .delivering outcome [] (o :: os))
      (hq : c'.queue = { c.queue with
        stage := .delivering outcome [] os, calls := c.queue.calls ++ [(o, outcome)] })
      (hended : c'.ended = c.ended)

variable {c c' : Course} {o : Observer} {n : Nat}

theorem shift_collect (c : Course) : c.Shift (c.step .collect) := by
  cases hended : c.queue.stage.ended? with
  | none =>
      refine .quiet ?_ ?_
      · rw [step, collect_of_none hended]
        exact .refl _
      · rw [step, hended]
        exact List.append_nil _
  | some e =>
      have hstage := Stage.ended?_eq_some_iff.1 hended
      have ended : (c.step .collect).ended = c.ended ++ [e] := by
        rw [step, hended]
        rfl
      refine .ends hstage ?_ ?_ ?_ ?_ ended <;> rw [step, collect, hstage]

theorem shift_notify (c : Course) : c.Shift (c.step .notify) := by
  obtain hq | ⟨outcome, o, os, hstage, hq⟩ := c.queue.of_notify
  · exact .quiet (by rw [step, hq]; exact .refl _) rfl
  · exact .tells hstage hq rfl

theorem shift_step (c : Course) (e : Event) : c.Shift (c.step e) := by
  cases e with
  | ask a => exact .quiet (by rw [step, ask_eq]; exact sameObservers_enqueue ..) rfl
  | observe => exact .joins rfl rfl
  | shutDown => exact .quiet ⟨rfl, rfl, rfl, rfl, fun _ => rfl⟩ rfl
  | take =>
      rw [step]
      split
      next => exact .quiet (.refl _) rfl
      next => exact .quiet (sameObservers_take _) rfl
  | finish outcome => exact .quiet (sameObservers_finish _ outcome) rfl
  | collect => exact c.shift_collect
  | answer => exact .quiet (sameObservers_answer _) rfl
  | notify => exact c.shift_notify
  | rest => exact .quiet (sameObservers_rest _) rfl
  | stop => exact .quiet (.refl _) rfl

theorem ordered_shift (h : c.queue.Ordered) (hs : c.Shift c') : c'.queue.Ordered := by
  rw [Ordered] at h ⊢
  cases hs with
  | quiet hq => rw [hq.calls, hq.due, hq.observers, hq.registrations, h]
  | joins hq =>
      rw [hq, observe, List.range_succ, ← h, List.append_assoc, List.append_assoc]
  | ends hstage hstage' hobservers hcalls hregistrations =>
      rw [hstage] at h
      rw [hcalls, hstage', hobservers, hregistrations, ← h, List.append_nil]
      rfl
  | tells hstage hq =>
      rw [hstage] at h
      rw [hq, ← h, List.map_append, List.append_assoc]
      rfl

/-! ### One observer -/

/-- What has become of an observer that registered when `n` builds had ended. -/
inductive Phase (c : Course) (o : Observer) (n : Nat) : Prop
  /-- No build has ended since, and it waits. -/
  | waiting (hended : c.ended.length = n) (ho : o ∈ c.queue.observers)
  /-- A build has ended, and it is about to be told. -/
  | due {e : Job × Outcome} (hended : c.ended[n]? = some e)
      (houtcome : c.queue.stage.outcome? = some e.2) (ho : o ∈ c.queue.stage.due)
  /-- A build has ended, and it was told. -/
  | told {e : Job × Outcome} (hended : c.ended[n]? = some e) (hheard : c.queue.heard o = [e.2])

/-- **One event.** -/
theorem Phase.shift (hp : c.Phase o n) (h : c.queue.Ordered) (hs : c.Shift c') : c'.Phase o n := by
  cases hs with
  | quiet hq hended =>
      cases hp with
      | waiting hn ho => exact .waiting (hended ▸ hn) (hq.observers ▸ ho)
      | due he hout ho =>
          exact .due (hended ▸ he) ((hq.outcome (List.ne_nil_of_mem ho)).trans hout) (hq.due ▸ ho)
      | told he hheard => exact .told (hended ▸ he) ((heard_congr hq.calls).trans hheard)
  | joins hq hended =>
      cases hp with
      | waiting hn ho => exact .waiting (hended ▸ hn) (hq ▸ List.mem_append_left _ ho)
      | due he hout ho => exact .due (hended ▸ he) (hq ▸ hout) (hq ▸ ho)
      | told he hheard => exact .told (hended ▸ he) (hq ▸ hheard)
  | @ends job outcome hstage hstage' hobservers hcalls hregistrations hended =>
      cases hp with
      | waiting hn ho =>
          refine .due (e := (job, outcome)) ?_ (by rw [hstage']; rfl) (by rw [hstage']; exact ho)
          rw [hended, ← hn]
          exact List.getElem?_concat_length
      | due he hout ho => rw [hstage] at ho; cases ho
      | told he hheard =>
          refine .told (e := _) ?_ ((heard_congr hcalls).trans hheard)
          rw [hended, List.getElem?_append_left (List.getElem?_eq_some_iff.1 he).1]
          exact he
  | @tells outcome p os hstage hq hended =>
      have concat : c'.queue.heard o = c.queue.heard o ++ if p = o then [outcome] else [] :=
        heard_concat (by rw [hq])
      cases hp with
      | waiting hn ho => exact .waiting (hended ▸ hn) (by rw [hq]; exact ho)
      | @due e he hout ho =>
          have hnil := h.heard_eq_nil (.inl ho)
          rw [hstage] at hout ho
          obtain rfl : outcome = e.2 := Option.some.inj hout
          by_cases hpo : p = o
          · refine .told (hended ▸ he) ?_
            rw [concat, hnil, if_pos hpo, List.nil_append]
          · refine .due (hended ▸ he) (by rw [hq]; rfl) ?_
            rw [hq]
            exact (List.mem_cons.1 ho).resolve_left (Ne.symm hpo)
      | told he hheard =>
          -- who was told is not told again
          have other : p ≠ o := by
            rintro rfl
            have := h.heard_eq_nil (.inl (by rw [hstage]; exact List.mem_cons_self))
            rw [this] at hheard
            cases hheard
          refine .told (hended ▸ he) ?_
          rw [concat, if_neg other, List.append_nil, hheard]

theorem ordered_after (h : c.queue.Ordered) (events : List Event) :
    (c.after events).queue.Ordered := by
  induction events generalizing c with
  | nil => exact h
  | cons e events ih => exact ih (ordered_shift h (c.shift_step e))

theorem Phase.after (hp : c.Phase o n) (h : c.queue.Ordered) (events : List Event) :
    (c.after events).Phase o n := by
  induction events generalizing c with
  | nil => exact hp
  | cons e events ih => exact ih (hp.shift h (c.shift_step e)) (ordered_shift h (c.shift_step e))

/-- An observer that registered when `n` builds had ended is told once, and of the next build. -/
structure Observed (c : Course) (o : Observer) (n : Nat) : Prop where
  /-- It is told once at most. -/
  once : (c.queue.heard o).length ≤ 1
  /-- Until the next build ends it waits and is told nothing. -/
  waits : c.ended.length ≤ n → o ∈ c.queue.observers ∧ c.queue.heard o = []
  /-- When that build has ended, well or not, it waits no longer; it was told the outcome, or the
  worker is about to tell it. -/
  fires : ∀ {e}, c.ended[n]? = some e → o ∉ c.queue.observers ∧
    (c.queue.heard o = [e.2] ∨
      c.queue.heard o = [] ∧ o ∈ c.queue.stage.due ∧ c.queue.stage.outcome? = some e.2)
  /-- It was told when the worker has nobody left to tell. -/
  settled : c.queue.stage.due = [] → ∀ {e}, c.ended[n]? = some e → c.queue.heard o = [e.2]

theorem Phase.observed (hp : c.Phase o n) (h : c.queue.Ordered) : c.Observed o n := by
  cases hp with
  | waiting hn ho =>
      have hnil := h.heard_eq_nil (.inr ho)
      have early : ∀ {e}, c.ended[n]? ≠ some e := fun {e} he => by
        have := (List.getElem?_eq_some_iff.1 he).1
        omega
      exact ⟨by rw [hnil]; exact Nat.zero_le 1, fun _ => ⟨ho, hnil⟩, fun he => absurd he early,
        fun _ _ he => absurd he early⟩
  | @due e he hout ho =>
      have hnil := h.heard_eq_nil (.inl ho)
      have hlt := (List.getElem?_eq_some_iff.1 he).1
      refine ⟨by rw [hnil]; exact Nat.zero_le 1, fun hn => absurd hlt (Nat.not_lt_of_le hn),
        fun he' => ?_, fun hdue => ?_⟩
      · obtain rfl := Option.some.inj (he.symm.trans he')
        exact ⟨fun ho' => h.not_mem_due ho' ho, .inr ⟨hnil, ho, hout⟩⟩
      · rw [hdue] at ho
        cases ho
  | @told e he hheard =>
      have hlt := (List.getElem?_eq_some_iff.1 he).1
      refine ⟨by rw [hheard]; exact Nat.le_refl 1, fun hn => absurd hlt (Nat.not_lt_of_le hn),
        fun he' => ?_, fun _ _ he' => ?_⟩
      · obtain rfl := Option.some.inj (he.symm.trans he')
        refine ⟨fun ho => ?_, .inl hheard⟩
        rw [h.heard_eq_nil (.inr ho)] at hheard
        cases hheard
      · obtain rfl := Option.some.inj (he.symm.trans he')
        exact hheard

theorem ordered_start : start.queue.Ordered := rfl

/-- Whoever registers is told of the next build to end. -/
theorem observed_after (before after : List Event) :
    (((start.after before).step .observe).after after).Observed
      (start.after before).queue.registrations (start.after before).ended.length := by
  have h := ordered_after ordered_start before
  have h' := ordered_shift h (shift_step _ .observe)
  have registered : ((start.after before).step .observe).Phase
      (start.after before).queue.registrations (start.after before).ended.length :=
    .waiting rfl (List.mem_append_right _ (List.mem_singleton_self _))
  exact (registered.after h' after).observed (ordered_after h' after)

/-! ### Observers that act and break down -/

end Course

/-- What a caller does. -/
inductive Call where
  /-- It asks for a build. -/
  | ask (a : Ask)
  /-- It registers an observer. -/
  | observe
  /-- It shuts the queue down. -/
  | shutDown

/-- What it does to the queue. -/
def Call.event : Call → Event
  | .ask a    => .ask a
  | .observe  => .observe
  | .shutDown => .shutDown

/-- How an observer takes it to be told. -/
structure Reaction where
  /-- What it does, and others do meanwhile. -/
  calls : List Call
  /-- Whether it breaks down in the end. -/
  breaksDown : Bool

namespace Course

open Queue

variable {c c' : Course}

/-- The next observer is told.  What was done until it broke down stays done. -/
def tell (c : Course) (r : Reaction) : Except Course Course :=
  let told := (c.step .notify).after (r.calls.map Call.event)
  if r.breaksDown then .error told else .ok told

/-- The worker catches a breakdown. -/
def caught : Except Course Course → Course
  | .ok c    => c
  | .error c => c

/-- The worker tells all callers, one after the other. -/
def answerAll (c : Course) : Course := c.after (c.queue.stage.untold.map fun _ => .answer)

/-- The worker tells all callers and then all observers, one after the other, and comes to rest. -/
def deliver (c : Course) (react : Observer → Reaction) : Course :=
  (c.queue.stage.due.foldl (fun c o => caught (c.tell (react o))) c.answerAll).step .rest

theorem caught_tell (c : Course) (r : Reaction) :
    caught (c.tell r) = c.after (.notify :: r.calls.map Call.event) := by
  rw [tell]
  split <;> rfl

/-- **Breakdowns do not show.**  The worker tells everybody as if no observer broke down. -/
theorem deliver_eq (c : Course) (react : Observer → Reaction) :
    c.deliver react = c.after ((c.queue.stage.untold.map fun _ => .answer) ++
      (c.queue.stage.due.flatMap fun o => .notify :: (react o).calls.map Call.event) ++
        [.rest]) := by
  have told :
      ∀ (os : List Observer) (c : Course), os.foldl (fun c o => caught (c.tell (react o))) c =
      c.after (os.flatMap fun o => .notify :: (react o).calls.map Call.event) := fun os => by
    induction os with
    | nil => exact fun c => rfl
    | cons o os ih =>
        intro c
        rw [List.foldl_cons, ih, caught_tell, List.flatMap_cons, after, after, after,
          List.foldl_append]
  rw [deliver, told, answerAll, after, after, after, List.foldl_append, List.foldl_append]
  rfl

/-- What callers do while an observer is told leaves the delivery alone. -/
structure SameDelivery (c c' : Course) : Prop where
  /-- The worker has the same left to do. -/
  stage : c'.queue.stage = c.queue.stage
  /-- Nobody was told anything. -/
  calls : c'.queue.calls = c.queue.calls
  /-- What callers were told they were told. -/
  answers : c.queue.answers ⊆ c'.queue.answers
  /-- No build has ended. -/
  ended : c'.ended = c.ended
  /-- The worker has not stopped. -/
  hasStopped : c'.hasStopped = c.hasStopped

theorem SameDelivery.trans {c'' : Course} (h : c.SameDelivery c') (h' : c'.SameDelivery c'') :
    c.SameDelivery c'' :=
  ⟨h'.stage.trans h.stage, h'.calls.trans h.calls, List.Subset.trans h.answers h'.answers,
    h'.ended.trans h.ended, h'.hasStopped.trans h.hasStopped⟩

theorem sameDelivery_calls (c : Course) (calls : List Call) :
    c.SameDelivery (c.after (calls.map Call.event)) := by
  induction calls generalizing c with
  | nil => exact ⟨rfl, rfl, List.Subset.refl _, rfl, rfl⟩
  | cons call calls ih =>
      refine SameDelivery.trans ?_ (ih _)
      cases call with
      | ask a =>
          refine ⟨?_, ?_, ?_, rfl, rfl⟩
          · rw [Call.event, step, ask_eq, stage_enqueue]
          · rw [Call.event, step, ask_eq, (sameObservers_enqueue ..).calls]
          · rw [Call.event, step, ask_eq]
            exact subset_answers_enqueue ..
      | observe => exact ⟨rfl, rfl, List.Subset.refl _, rfl, rfl⟩
      | shutDown => exact ⟨rfl, rfl, List.Subset.refl _, rfl, rfl⟩

/-- The worker has told everybody an outcome, whatever the observers did. -/
structure Delivers (c : Course) (react : Observer → Reaction) (outcome : Outcome) : Prop where
  /-- It is one of the courses. -/
  course : ∃ events, c.deliver react = c.after events
  /-- All callers who were left were told. -/
  answers : c.queue.stage.untold ⊆ (c.deliver react).queue.answers
  /-- All who were collected were told, in their order, and nobody else. -/
  calls : (c.deliver react).queue.calls =
    c.queue.calls ++ c.queue.stage.due.map fun o => (o, outcome)
  /-- No other build has ended. -/
  ended : (c.deliver react).ended = c.ended
  /-- The worker is at rest, -/
  rests : (c.deliver react).queue.stage = .idle
  /-- and goes on with what waits. -/
  resumes : ∀ {job}, (c.deliver react).queue.pending = some job →
    ((c.deliver react).step .take).queue.stage = .building job

theorem foldl_caught (react : Observer → Reaction) {outcome : Outcome} {os : List Observer}
    (hstage : c.queue.stage = .delivering outcome [] os) :
    let d := os.foldl (fun c o => caught (c.tell (react o))) c
    d.queue.stage = .delivering outcome [] [] ∧
      d.queue.calls = c.queue.calls ++ os.map (fun o => (o, outcome)) ∧
      c.queue.answers ⊆ d.queue.answers ∧ d.ended = c.ended ∧ d.hasStopped = c.hasStopped := by
  induction os generalizing c with
  | nil => exact ⟨hstage, (List.append_nil _).symm, List.Subset.refl _, rfl, rfl⟩
  | cons o os ih =>
      have next : (c.step .notify).queue = { c.queue with
          stage := .delivering outcome [] os, calls := c.queue.calls ++ [(o, outcome)] } := by
        rw [step, notify, hstage]
      have meanwhile := sameDelivery_calls (c.step .notify) (react o).calls
      have told : caught (c.tell (react o)) =
          (c.step .notify).after ((react o).calls.map Call.event) := c.caught_tell (react o)
      have stage : (caught (c.tell (react o))).queue.stage = .delivering outcome [] os := by
        rw [told, meanwhile.stage, next]
      have kept : c.queue.answers ⊆ (caught (c.tell (react o))).queue.answers := by
        have := meanwhile.answers
        rw [next] at this
        rwa [told]
      obtain ⟨hs, hc, ha, he, hh⟩ := ih stage
      refine ⟨hs, ?_, List.Subset.trans kept ha, ?_, ?_⟩
      · rw [List.foldl_cons, hc, told, meanwhile.calls, next, List.append_assoc]
        rfl
      · rw [List.foldl_cons, he, told, meanwhile.ended]
        rfl
      · rw [List.foldl_cons, hh, told, meanwhile.hasStopped]
        rfl

theorem after_answer (c : Course) {α : Type} (l : List α) :
    c.after (l.map fun _ => .answer) = { c with queue := answer^[l.length] c.queue } := by
  induction l generalizing c with
  | nil => rfl
  | cons a l ih => exact ih (c.step .answer)

theorem answerAll_eq {outcome : Outcome} {waiters : List Handle} {os : List Observer}
    (hstage : c.queue.stage = .delivering outcome waiters os) :
    c.answerAll = { c with
      queue := { c.queue with
        stage := .delivering outcome [] os
        answers := c.queue.answers ++ c.queue.stage.untold } } := by
  have told : c.queue.stage.untold = waiters.map fun h => (h, outcome) := by rw [hstage]; rfl
  rw [answerAll, after_answer, told, List.length_map, iterate_answer hstage]

theorem delivers (h : c.Kept) {outcome : Outcome} {waiters : List Handle} {os : List Observer}
    (hstage : c.queue.stage = .delivering outcome waiters os) (react : Observer → Reaction) :
    c.Delivers react outcome := by
  have answered := answerAll_eq hstage
  obtain ⟨hs, hc, ha, he, hh⟩ := foldl_caught (c := c.answerAll) react (by rw [answered])
  rw [answered] at hs hc ha he hh
  have due : c.queue.stage.due = os := by rw [hstage]; rfl
  have going : c.hasStopped = false := Bool.eq_false_iff.2 fun hstopped => by
    have := (h.stopped hstopped).1
    rw [isIdle, hstage] at this
    cases this
  have rests : (c.deliver react).queue.stage = .idle := by
    rw [deliver, due, answered, step, Queue.rest, hs]
  refine ⟨⟨_, c.deliver_eq react⟩, ?_, ?_, ?_, rests, fun {job} hjob => ?_⟩
  · rw [deliver, due, answered, step, answers_rest]
    exact List.Subset.trans (List.subset_append_right ..) ha
  · rw [deliver, due, answered, step, (sameObservers_rest _).calls, hc]
  · rw [deliver, due, answered, step, he]
  · have still : (c.deliver react).hasStopped = false := by
      rw [deliver, due, answered, step, hh, going]
    rw [step, if_neg (ne_true_of_eq_false still), take, rests, hjob]

end Course

namespace Service

open Course

theorem exists_ledTo_perform {w : Service × FileTree} {c : Course} (h : c.LedTo w.1.queue)
    (actions : List Action) : ∃ events, (c.after events).LedTo (perform w actions).1.queue := by
  induction actions generalizing w c with
  | nil => exact ⟨[], h⟩
  | cons a actions ih =>
      obtain ⟨events, hevents⟩ := exists_ledTo_act h w.2 a
      obtain ⟨more, hmore⟩ := ih (w := act w a) hevents
      refine ⟨events ++ more, ?_⟩
      rw [Course.after, List.foldl_append]
      exact hmore

/-- **Observers are told once, and of the next build.**  Whatever happens before and after an
observer registers, while a build is under way or while others are told, it is told one outcome,
that of the first build to end after that.  When observers act or break down while they are told,
the others are told all the same, and the worker goes on.  Observers of a service are told in this
way. -/
theorem observers_told_once :
    (∀ before after, (((Course.start.after before).step .observe).after after).Observed
      (Course.start.after before).queue.registrations (Course.start.after before).ended.length) ∧
    (∀ events react {outcome waiters os},
      (Course.start.after events).queue.stage = .delivering outcome waiters os →
        (Course.start.after events).Delivers react outcome) ∧
    ∀ (store : Store) (rule : TermRule) (s : Service), Reachable store rule s → ∀ files actions,
      ∃ before after, (Course.start.after before).queue = s.queue ∧
        (((Course.start.after before).step .observe).after after).queue =
          (perform (act (s, files) .observe) actions).1.queue := by
  refine ⟨observed_after, fun events react {outcome waiters os} hstage =>
    delivers (kept_after events) hstage react, fun store rule s hs files actions => ?_⟩
  obtain ⟨before, hbefore⟩ := exists_ledTo hs
  have registered :
      ((Course.start.after before).step .observe).LedTo (act (s, files) .observe).1.queue :=
    ⟨congrArg Queue.observe hbefore.queue, hbefore.going, hbefore.uncancelled, hbefore.outcome⟩
  obtain ⟨after, hafter⟩ := exists_ledTo_perform registered actions
  exact ⟨before, after, hbefore.queue, hafter.queue⟩

/-- Two observers wait for a build, and it breaks down. -/
def watched : Course :=
  Course.start.after [.observe, .observe, .ask (.run []), .take,
    .finish (.error (.breakdown .clockOverflow)), .collect]

/-- The first observer registers another one, asks for a build, and breaks down. -/
def unruly : Observer → Reaction
  | 0 => ⟨[.observe, .ask (.run [])], true⟩
  | _ => ⟨[], false⟩

/-- Both are told, the new one waits for the next build, and that build begins. -/
theorem unruly_told_once :
    ((watched.deliver unruly).queue.calls =
        [(0, .error (.breakdown .clockOverflow)), (1, .error (.breakdown .clockOverflow))] ∧
      ((watched.deliver unruly).step .take).queue.stage = .building ⟨.full [], [1]⟩) ∧
    (watched.deliver unruly).Observed 2 1 ∧
    ∃ before after, (Course.start.after before).queue = (fresh "index" []).queue ∧
      (((Course.start.after before).step .observe).after after).queue =
        (perform (act (fresh "index" [], .empty) .observe)
          [.build .none (.atSecond 0), .publish, .collect, .answer, .notify]).1.queue := by
  obtain ⟨observed, delivered, service⟩ := observers_told_once
  have told := delivered [.observe, .observe, .ask (.run []), .take,
    .finish (.error (.breakdown .clockOverflow)), .collect] unruly rfl
  exact ⟨⟨told.calls, told.resumes rfl⟩,
    observed [.observe, .observe, .ask (.run []), .take,
      .finish (.error (.breakdown .clockOverflow)), .collect, .answer, .notify]
      [.ask (.run []), .notify, .rest],
    service _ _ _ (reachable_fresh "index" []) .empty _⟩

end Service

end TranscriptSearch
