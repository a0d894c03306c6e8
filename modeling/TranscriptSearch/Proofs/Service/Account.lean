import TranscriptSearch.Proofs.Service.Build
import TranscriptSearch.Proofs.Service.Course

/-!
# Service — every request is accounted for

At every moment the request of a handle is in one place: it waits, a build carries it, it was
answered by a build, or it came after the shutdown.  What the caller was told follows from the
place.

* `Course.IsAt`: whether a handle is in a place; `Course.toldAt`: what is told in a place.
* `Course.Kept.isAt_iff`: a handle is where its job is, unless a build still carries it.
* `Course.Kept.existsUnique_isAt`: every handle is in exactly one place.
* `Course.Kept.told_eq_toldAt`: its caller was told what is told there.
* `Course.Accounted`: every request is accounted for; `Course.Kept.accounted`.
* `Service.exists_ledTo`: the queue of a reachable service has a course.
-/

namespace TranscriptSearch

/-- Where a handle is. -/
inductive Whereabouts where
  /-- With the request that waits. -/
  | waiting
  /-- With the build in flight: it is under way, or this caller is yet to be told how it ended. -/
  | building
  /-- Answered by the `i`-th build that has ended. -/
  | answered (i : Nat)
  /-- It was issued after the shutdown. -/
  | late

namespace Course

/-- The job in a place. -/
def job? (c : Course) : Whereabouts → Option Job
  | .waiting    => c.queue.pending
  | .building   => c.queue.stage.underWay?
  | .answered i => c.ended[i]?.map Prod.fst
  | .late       => none

/-- Whether a handle is in a place.  The handles of a build that has ended are carried on until each
of them is told. -/
def IsAt (c : Course) (h : Handle) : Whereabouts → Prop
  | .waiting    => ∃ job ∈ c.queue.pending, h ∈ job.waiters
  | .building   => h ∈ c.queue.stage.carried
  | .answered i => (∃ e ∈ c.ended[i]?, h ∈ e.1.waiters) ∧ h ∉ c.queue.stage.carried
  | .late       => c.early ≤ h

/-- What those who are in a place have been told. -/
def toldAt (c : Course) : Whereabouts → List Outcome
  | .waiting | .building => []
  | .answered i          => (c.ended[i]?.map Prod.snd).toList
  | .late                => [.error .cancelled]

/-- **Every request is accounted for.** -/
structure Accounted (c : Course) : Prop where
  /-- Every handle is in exactly one place. -/
  place : ∀ h < c.queue.handles, ∃! p, c.IsAt h p
  /-- It has been told what is told there, once, and nothing before. -/
  told : ∀ h < c.queue.handles, ∀ p, c.IsAt h p → c.queue.told h = c.toldAt p
  /-- Nobody else is told anything. -/
  issued : ∀ e ∈ c.queue.answers, e.1 < c.queue.handles
  /-- A job does what those who wait for it asked for, folded in the order in which they asked;
  nobody waits for it twice. -/
  folded : ∀ p, ∀ job ∈ c.job? p, job.waiters.Nodup ∧ job.Does c.asked
  /-- Whom a build carries waits for the job that is under way, or is about to be told how the build
  ended that ended last. -/
  carried : ∀ h, c.IsAt h .building → (∃ job ∈ c.job? .building, h ∈ job.waiters) ∨
    ∃ e ∈ c.ended.getLast?, h ∈ e.1.waiters ∧ (h, e.2) ∈ c.queue.stage.untold
  /-- At most one build is under way. -/
  single : c.begun ≤ c.ended.length + 1
  /-- When the worker is idle and no request waits, nobody waits. -/
  idle : c.queue.isIdle = true → ∀ h, ¬ c.IsAt h .waiting ∧ ¬ c.IsAt h .building
  /-- Until the shutdown nobody is late. -/
  unshut : c.queue.isShutDown = false → ∀ h < c.queue.handles, ¬ c.IsAt h .late
  /-- Who asked before the shutdown is told of a cancellation by a build only. -/
  spared : ∀ h < c.early, .error .cancelled ∈ c.queue.told h →
    ∃ e ∈ c.ended, h ∈ e.1.waiters ∧ e.2 = .error .cancelled
  /-- When the worker has stopped, everyone who asked before the shutdown was told by a build. -/
  stopped : c.hasStopped = true → ∀ h < c.early, ∃ i, c.IsAt h (.answered i)

/-! ### Places -/

/-- The position of a place in the list of jobs. -/
def seat (c : Course) : Whereabouts → Nat
  | .waiting    => c.ended.length + c.queue.stage.underWay?.toList.length
  | .building   => c.ended.length
  | .answered i => i
  | .late       => 0

variable {c : Course} {p p' : Whereabouts} {job job' : Job}

theorem jobs_seat (h : c.job? p = some job) : c.jobs[c.seat p]? = some job := by
  cases p with
  | waiting =>
      have hp : c.queue.pending = some job := h
      rw [jobs, seat, ← List.append_assoc, hp]
      rw [List.getElem?_append_right (by simp)]
      simp
  | building =>
      have hj : c.queue.stage.underWay? = some job := h
      rw [jobs, seat, List.getElem?_append_right (by simp), hj]
      simp
  | answered i =>
      have hi : c.ended[i]?.map Prod.fst = some job := h
      obtain ⟨e, he, -⟩ := Option.map_eq_some_iff.1 hi
      rw [jobs, seat, List.getElem?_append_left
        (by simpa using (List.getElem?_eq_some_iff.1 he).1), List.getElem?_map, hi]
  | late => cases h

theorem mem_jobs (h : c.job? p = some job) : job ∈ c.jobs := List.mem_of_getElem? (jobs_seat h)

theorem exists_answered {e : Job × Outcome} (h : e ∈ c.ended) :
    ∃ i, c.job? (.answered i) = some e.1 := by
  obtain ⟨i, hi⟩ := List.getElem?_of_mem h
  exact ⟨i, by rw [job?, hi, Option.map_some]⟩

theorem exists_job? (h : job ∈ c.jobs) : ∃ p, c.job? p = some job := by
  rw [jobs, List.mem_append, List.mem_append, Option.mem_toList, Option.mem_toList] at h
  rcases h with h | h | h
  · obtain ⟨e, he, rfl⟩ := List.mem_map.1 h
    obtain ⟨i, hi⟩ := exists_answered he
    exact ⟨.answered i, hi⟩
  · exact ⟨.building, h⟩
  · exact ⟨.waiting, h⟩

theorem seat_inj (h : c.job? p = some job) (h' : c.job? p' = some job')
    (hseat : c.seat p = c.seat p') : p = p' := by
  have ended : ∀ {i j}, c.job? (.answered i) = some j → i < c.ended.length := fun {i j} hi => by
    obtain ⟨e, he, -⟩ := Option.map_eq_some_iff.1 hi
    exact (List.getElem?_eq_some_iff.1 he).1
  have working : ∀ {j}, c.job? .building = some j → c.queue.stage.underWay?.toList.length = 1 :=
    fun {j} hj => by rw [show c.queue.stage.underWay? = some j from hj]; rfl
  cases p <;> cases p' <;> simp only [seat] at hseat <;> grind [job?]

namespace Kept

theorem nodup_waiters (h : c.Kept) : (c.jobs.flatMap Job.waiters).Nodup :=
  h.waiters ▸ List.nodup_range

/-- A handle waits for one job only. -/
theorem seat_eq (h : c.Kept) {a : Handle} (hp : c.job? p = some job) (ha : a ∈ job.waiters)
    (hp' : c.job? p' = some job') (ha' : a ∈ job'.waiters) : p = p' := by
  have apart := (List.nodup_flatMap.1 h.nodup_waiters).2
  refine seat_inj hp hp' ?_
  obtain ⟨hi, rfl⟩ := List.getElem?_eq_some_iff.1 (jobs_seat hp)
  obtain ⟨hj, rfl⟩ := List.getElem?_eq_some_iff.1 (jobs_seat hp')
  rw [List.pairwise_iff_getElem] at apart
  rcases Nat.lt_trichotomy (c.seat p) (c.seat p') with hlt | heq | hgt
  · exact absurd ha' fun ha' => apart _ _ hi hj hlt ha ha'
  · exact heq
  · exact absurd ha' fun ha' => apart _ _ hj hi hgt ha' ha

/-- Whom a build carries waits for the job that is under way, or for the one that ended last. -/
theorem exists_of_mem_carried (h : c.Kept) {a : Handle} (ha : a ∈ c.queue.stage.carried) :
    (∃ job ∈ c.job? .building, a ∈ job.waiters) ∨
      ∃ e ∈ c.ended.getLast?, a ∈ e.1.waiters ∧ (a, e.2) ∈ c.queue.stage.untold := by
  refine (Stage.mem_carried_iff.1 ha).imp_right fun huntold => ?_
  obtain ⟨⟨b, o⟩, hp, rfl⟩ := List.mem_map.1 huntold
  obtain ⟨e, he, hmem, rfl⟩ := h.untold _ hp
  exact ⟨e, he, hmem, hp⟩

theorem not_mem_carried_of_waiting (h : c.Kept) {a : Handle} (hp : c.job? .waiting = some job)
    (ha : a ∈ job.waiters) : a ∉ c.queue.stage.carried := fun hcarried => by
  rcases h.exists_of_mem_carried hcarried with ⟨job', hp', ha'⟩ | ⟨e, he, ha', -⟩
  · cases h.seat_eq hp ha hp' ha'
  · obtain ⟨i, hi⟩ := exists_answered (List.mem_of_getLast? he)
    cases h.seat_eq hp ha hi ha'

/-- **A handle is where its job is**, unless a build still carries it; if it has none it is late. -/
theorem isAt_iff (h : c.Kept) {a : Handle} :
    c.IsAt a p ↔
      (∃ q job, c.job? q = some job ∧ a ∈ job.waiters ∧
        p = if a ∈ c.queue.stage.carried then .building else q) ∨
      p = .late ∧ c.early ≤ a := by
  constructor
  · intro hp
    cases p with
    | waiting =>
        obtain ⟨job, hjob, ha⟩ := hp
        exact .inl ⟨.waiting, job, hjob, ha,
          (if_neg (h.not_mem_carried_of_waiting hjob ha)).symm⟩
    | building =>
        rcases h.exists_of_mem_carried hp with ⟨job, hjob, ha⟩ | ⟨e, he, ha, -⟩
        · exact .inl ⟨.building, job, hjob, ha, (if_pos hp).symm⟩
        · obtain ⟨i, hi⟩ := exists_answered (List.mem_of_getLast? he)
          exact .inl ⟨.answered i, e.1, hi, ha, (if_pos hp).symm⟩
    | answered i =>
        obtain ⟨⟨e, he, ha⟩, hcarried⟩ := hp
        exact .inl ⟨.answered i, e.1, by rw [job?, Option.mem_def.1 he, Option.map_some], ha,
          (if_neg hcarried).symm⟩
    | late => exact .inr ⟨rfl, hp⟩
  · rintro (⟨q, job, hq, ha, rfl⟩ | ⟨rfl, hlate⟩)
    · split
      next hcarried => exact hcarried
      next hcarried =>
        cases q with
        | waiting => exact ⟨job, hq, ha⟩
        | building => exact Stage.mem_carried_iff.2 (.inl ⟨job, hq, ha⟩)
        | answered i =>
            obtain ⟨e, he, rfl⟩ := Option.map_eq_some_iff.1 hq
            exact ⟨⟨e, he, ha⟩, hcarried⟩
        | late => cases hq
    · exact hlate

/-- **Every handle is in exactly one place.** -/
theorem existsUnique_isAt (h : c.Kept) (a : Handle) : ∃! p, c.IsAt a p := by
  by_cases ha : a < c.early
  · obtain ⟨job, hjob, hmem⟩ := List.mem_flatMap.1 (h.waiters.symm ▸ List.mem_range.2 ha)
    obtain ⟨q, hq⟩ := exists_job? hjob
    refine ⟨_, h.isAt_iff.2 (.inl ⟨q, job, hq, hmem, rfl⟩), fun p' hp' => ?_⟩
    rcases h.isAt_iff.1 hp' with ⟨q', job', hq', hmem', rfl⟩ | ⟨-, hlate⟩
    · rw [h.seat_eq hq' hmem' hq hmem]
    · exact absurd ha (Nat.not_lt_of_le hlate)
  · refine ⟨.late, Nat.le_of_not_lt ha, fun p' hp' => ?_⟩
    rcases h.isAt_iff.1 hp' with ⟨q', job', hq', hmem', rfl⟩ | ⟨hp', -⟩
    · exact absurd (h.lt_of_mem_waiters (mem_jobs hq') hmem') ha
    · exact hp'

/-! ### Answers -/

/-- What callers were told, and what they are about to be told. -/
theorem mem_append_untold_iff (h : c.Kept) {a : Nat} {o : Outcome} :
    (a, o) ∈ c.queue.answers ++ c.queue.stage.untold ↔
      (∃ e ∈ c.ended, a ∈ e.1.waiters ∧ e.2 = o) ∨
      (c.early ≤ a ∧ a < c.queue.handles) ∧ o = .error .cancelled := by
  rw [h.answers.mem_iff, List.mem_append]
  refine or_congr ?_ ?_
  · simp only [answered, List.mem_flatMap, List.mem_map, Prod.mk.injEq]
    constructor
    · rintro ⟨e, he, b, hb, rfl, rfl⟩
      exact ⟨e, he, hb, rfl⟩
    · rintro ⟨e, he, ha, rfl⟩
      exact ⟨e, he, a, ha, rfl, rfl⟩
  · simp only [turnedAway, List.mem_map, List.mem_range'_1, Prod.mk.injEq]
    constructor
    · rintro ⟨b, ⟨hle, hlt⟩, rfl, rfl⟩
      exact ⟨⟨hle, by rwa [Nat.add_sub_cancel' h.early] at hlt⟩, rfl⟩
    · rintro ⟨⟨hle, hlt⟩, rfl⟩
      exact ⟨a, ⟨hle, by rwa [Nat.add_sub_cancel' h.early]⟩, rfl, rfl⟩

/-- Nobody is told anything twice. -/
theorem nodup_answers (h : c.Kept) :
    ((c.queue.answers ++ c.queue.stage.untold).map Prod.fst).Nodup := by
  have told : c.answered.map Prod.fst = (c.ended.map Prod.fst).flatMap Job.waiters := by
    rw [answered, List.map_flatMap, List.flatMap_map]
    simp only [List.map_map, Function.comp_def, List.map_id']
  have late : c.turnedAway.map Prod.fst = List.range' c.early (c.queue.handles - c.early) := by
    rw [turnedAway, List.map_map]
    exact List.map_id _
  rw [(h.answers.map Prod.fst).nodup_iff, List.map_append, told, late]
  refine List.Nodup.append ?_ List.nodup_range' ?_
  · refine h.nodup_waiters.sublist ?_
    rw [jobs, List.flatMap_append]
    exact List.sublist_append_left _ _
  · intro a ha hlate
    obtain ⟨job, hjob, hmem⟩ := List.mem_flatMap.1 ha
    exact absurd (h.lt_of_mem_waiters (List.mem_append_left _ hjob) hmem)
      (Nat.not_lt_of_le (List.mem_range'_1.1 hlate).1)

theorem lt_of_mem_carried (h : c.Kept) {a : Handle} (ha : a ∈ c.queue.stage.carried) :
    a < c.early := by
  rcases h.exists_of_mem_carried ha with ⟨job, hjob, hmem⟩ | ⟨e, he, hmem, -⟩
  · exact h.lt_of_mem_waiters (mem_jobs hjob) hmem
  · obtain ⟨i, hi⟩ := exists_answered (List.mem_of_getLast? he)
    exact h.lt_of_mem_waiters (mem_jobs hi) hmem

/-- Who was told is no longer carried. -/
theorem not_mem_carried_of_mem_answers (h : c.Kept) {a : Handle} {o : Outcome}
    (ho : (a, o) ∈ c.queue.answers) : a ∉ c.queue.stage.carried := fun hcarried => by
  rcases h.exists_of_mem_carried hcarried with ⟨job, hjob, hmem⟩ | ⟨e, -, -, huntold⟩
  · rcases h.mem_append_untold_iff.1 (List.mem_append_left _ ho) with
      ⟨e, he, hmem', -⟩ | ⟨⟨hl, -⟩, -⟩
    · obtain ⟨i, hi⟩ := exists_answered he
      cases h.seat_eq hjob hmem hi hmem'
    · exact absurd (h.lt_of_mem_carried hcarried) (Nat.not_lt_of_le hl)
  · have apart := h.nodup_answers
    rw [List.map_append, List.nodup_append] at apart
    exact apart.2.2 a (List.mem_map_of_mem ho) a (List.mem_map_of_mem huntold) rfl

/-- What callers were told. -/
theorem mem_answers_iff (h : c.Kept) {a : Nat} {o : Outcome} :
    (a, o) ∈ c.queue.answers ↔
      ((∃ e ∈ c.ended, a ∈ e.1.waiters ∧ e.2 = o) ∧ a ∉ c.queue.stage.carried) ∨
      (c.early ≤ a ∧ a < c.queue.handles) ∧ o = .error .cancelled := by
  have told : ∀ {e}, e ∈ c.queue.answers ++ c.queue.stage.untold → e.1 ∉ c.queue.stage.carried →
      e ∈ c.queue.answers := fun {e} he hcarried =>
    (List.mem_append.1 he).resolve_right fun huntold =>
      hcarried (Stage.mem_carried_iff.2 (.inr (List.mem_map_of_mem huntold)))
  constructor
  · intro ho
    exact (h.mem_append_untold_iff.1 (List.mem_append_left _ ho)).imp_left fun he =>
      ⟨he, h.not_mem_carried_of_mem_answers ho⟩
  · rintro (⟨he, hcarried⟩ | hlate)
    · exact told (h.mem_append_untold_iff.2 (.inl he)) hcarried
    · exact told (h.mem_append_untold_iff.2 (.inr hlate)) fun hcarried =>
        absurd (h.lt_of_mem_carried hcarried) (Nat.not_lt_of_le hlate.1.1)

theorem told_eq (h : c.Kept) {a : Handle} {o : Outcome} (ha : (a, o) ∈ c.queue.answers) :
    c.queue.told a = [o] := by
  have once : ∀ {l : List (Handle × Outcome)}, (l.map Prod.fst).Nodup → (a, o) ∈ l →
      (l.filter fun e => e.1 = a).map Prod.snd = [o] := fun {l} => by
    induction l with
    | nil => exact nofun
    | cons e l ih =>
        intro hnodup hmem
        obtain ⟨hnew, hnodup⟩ := List.nodup_cons.1 hnodup
        rcases List.mem_cons.1 hmem with rfl | hmem
        · have rest : (l.filter fun e => e.1 = a) = [] := List.filter_eq_nil_iff.2 fun e he hea =>
            hnew (List.mem_map.2 ⟨e, he, of_decide_eq_true hea⟩)
          rw [List.filter_cons_of_pos (by simp), rest]
          rfl
        · have other : e.1 ≠ a := fun hea => hnew (List.mem_map.2 ⟨_, hmem, hea.symm⟩)
          rw [List.filter_cons_of_neg (by simpa using other)]
          exact ih hnodup hmem
  have nodup := h.nodup_answers
  rw [List.map_append] at nodup
  exact once (List.nodup_append.1 nodup).1 ha

theorem told_eq_nil {a : Handle} (ha : ∀ o, (a, o) ∉ c.queue.answers) : c.queue.told a = [] := by
  rw [Queue.told, List.map_eq_nil_iff, List.filter_eq_nil_iff]
  rintro ⟨b, o⟩ he hb
  obtain rfl : b = a := of_decide_eq_true hb
  exact ha o he

theorem mem_answers_of_mem_told {a : Handle} {o : Outcome} (ho : o ∈ c.queue.told a) :
    (a, o) ∈ c.queue.answers := by
  obtain ⟨⟨b, o'⟩, he, rfl⟩ := List.mem_map.1 ho
  obtain ⟨hmem, hb⟩ := List.mem_filter.1 he
  rw [← of_decide_eq_true hb]
  exact hmem

theorem told_eq_toldAt (h : c.Kept) {a : Handle} (hlt : a < c.queue.handles) (hp : c.IsAt a p) :
    c.queue.told a = c.toldAt p := by
  cases p with
  | waiting =>
      obtain ⟨job, hjob, ha⟩ := hp
      refine told_eq_nil fun o ho => ?_
      rcases h.mem_answers_iff.1 ho with ⟨⟨e, he, ha', -⟩, -⟩ | ⟨⟨hlate, -⟩, -⟩
      · obtain ⟨i, hi⟩ := exists_answered he
        cases h.seat_eq (p := .waiting) hjob ha hi ha'
      · exact absurd (h.lt_of_mem_waiters (mem_jobs (p := .waiting) hjob) ha)
          (Nat.not_lt_of_le hlate)
  | building => exact told_eq_nil fun o ho => h.not_mem_carried_of_mem_answers ho hp
  | answered i =>
      obtain ⟨⟨e, he, ha⟩, hcarried⟩ := hp
      rw [toldAt, Option.mem_def.1 he]
      exact h.told_eq (h.mem_answers_iff.2
        (.inl ⟨⟨e, List.mem_of_getElem? he, ha, rfl⟩, hcarried⟩))
  | late => exact h.told_eq (h.mem_answers_iff.2 (.inr ⟨⟨hp, hlt⟩, rfl⟩))

/-! ### The account -/

theorem not_isAt_of_isIdle (h : c.queue.isIdle = true) (a : Handle) :
    ¬ c.IsAt a .waiting ∧ ¬ c.IsAt a .building := by
  rw [Queue.isIdle, Bool.and_eq_true, Stage.isIdle_iff, Option.isNone_iff_eq_none] at h
  constructor
  · rintro ⟨job, hjob, -⟩
    rw [h.2] at hjob
    cases hjob
  · rw [IsAt, h.1]
    exact List.not_mem_nil

theorem accounted (h : c.Kept) : c.Accounted where
  place a _ := h.existsUnique_isAt a
  told a hlt p hp := h.told_eq_toldAt hlt hp
  issued := by
    rintro ⟨a, o⟩ he
    rcases h.mem_answers_iff.1 he with ⟨⟨e, he, ha, -⟩, -⟩ | ⟨⟨-, hlt⟩, -⟩
    · obtain ⟨i, hi⟩ := exists_answered he
      exact Nat.lt_of_lt_of_le (h.lt_of_mem_waiters (mem_jobs hi) ha) h.early
    · exact hlt
  folded p job hp :=
    ⟨(List.nodup_flatMap.1 h.nodup_waiters).1 job (mem_jobs hp), h.folded job (mem_jobs hp)⟩
  carried _ ha := h.exists_of_mem_carried ha
  single := by
    rw [h.begun]
    cases c.queue.stage.underWay? with
    | none => exact Nat.le_succ _
    | some job => exact Nat.le_refl _
  idle hidle a := not_isAt_of_isIdle hidle a
  unshut hopen a ha hlate := absurd ha (Nat.not_lt_of_le (h.unshut hopen ▸ hlate))
  spared a ha hc := by
    rcases h.mem_answers_iff.1 (mem_answers_of_mem_told hc) with
      ⟨⟨e, he, hmem, ho⟩, -⟩ | ⟨⟨hl, -⟩, -⟩
    · exact ⟨e, he, hmem, ho⟩
    · exact absurd ha (Nat.not_lt_of_le hl)
  stopped hs a ha := by
    obtain ⟨p, hp, -⟩ := h.existsUnique_isAt a
    obtain ⟨hwaiting, hbuilding⟩ := not_isAt_of_isIdle (h.stopped hs).1 a
    cases p with
    | waiting => exact absurd hp hwaiting
    | building => exact absurd hp hbuilding
    | answered i => exact ⟨i, hp⟩
    | late => exact absurd ha (Nat.not_lt_of_le hp)

end Kept

/-! ### The queue of a service -/

/-- A course that led to a queue, in which the worker has not stopped and no build was cancelled. -/
structure LedTo (c : Course) (q : Queue) : Prop where
  /-- The queue is that of the course. -/
  queue : c.queue = q
  /-- The worker has not stopped. -/
  going : c.hasStopped = false
  /-- No build ended with a cancellation. -/
  uncancelled : ∀ e ∈ c.ended, e.2 ≠ .error .cancelled
  /-- Nor did the one that is told. -/
  outcome : ∀ o ∈ q.stage.outcome?, o ≠ .error .cancelled

namespace LedTo

variable {q : Queue}

/-- An event that ends no build. -/
theorem sameOutcome (h : c.LedTo q) {e : Event} {q' : Queue}
    (hq : (c.step e).queue = q') (hgoing : (c.step e).hasStopped = c.hasStopped)
    (hended : (c.step e).ended = c.ended)
    (houtcome : ∀ {o}, q'.stage.outcome? = some o → q.stage.outcome? = some o) :
    (c.step e).LedTo q' where
  queue := hq
  going := hgoing.trans h.going
  uncancelled := hended ▸ h.uncancelled
  outcome o ho := h.outcome o (houtcome ho)

theorem ask (h : c.LedTo q) (a : Ask) : (c.step (.ask a)).LedTo (q.ask a) := by
  refine h.sameOutcome (by rw [← h.queue]; rfl) rfl rfl fun ho => ?_
  rw [Queue.ask_eq, Queue.stage_enqueue] at ho
  exact ho

theorem take (h : c.LedTo q) : (c.step .take).LedTo q.take := by
  rw [step, if_neg (ne_true_of_eq_false h.going)]
  refine ⟨by rw [← h.queue], h.going, h.uncancelled, fun o ho => ?_⟩
  obtain hq | ⟨job, -, -, hq⟩ := q.of_take
  · exact h.outcome o (hq ▸ ho)
  · rw [hq] at ho
    cases ho

theorem finish (h : c.LedTo q) {outcome : Outcome} (ho : outcome ≠ .error .cancelled) :
    (c.step (.finish outcome)).LedTo (q.finish outcome) := by
  refine ⟨by rw [← h.queue]; rfl, h.going, h.uncancelled, fun o hout => ?_⟩
  rw [Queue.finish] at hout
  split at hout
  next => obtain rfl := Option.some.inj hout; exact ho
  next => exact h.outcome o hout

theorem collect (h : c.LedTo q) : (c.step .collect).LedTo q.collect := by
  refine ⟨by rw [← h.queue]; rfl, h.going, fun e he => ?_, fun o ho => ?_⟩
  · rcases List.mem_append.1 he with he | he
    · exact h.uncancelled e he
    · refine h.outcome e.2 ?_
      rw [h.queue, Option.mem_toList] at he
      exact Stage.outcome?_of_ended? he
  · exact h.outcome o ((Queue.sameWork_collect q).outcome ho)

end LedTo

end Course

namespace Service

open Course

/-- Every action of callers and of the worker is an event of the queue, or does not touch it. -/
theorem exists_ledTo_act {s : Service} {c : Course} (h : c.LedTo s.queue) (files : FileTree)
    (a : Action) : ∃ events, (c.after events).LedTo (act (s, files) a).1.queue := by
  have same : ∀ {s' : Service}, s.Spares s' → ∃ events, (c.after events).LedTo s'.queue :=
    fun hs => ⟨[], hs.queue ▸ h⟩
  have event : ∀ {e : Event} {q : Queue}, (c.step e).LedTo q →
      ∃ events, (c.after events).LedTo q := fun {e q} he => ⟨[e], he⟩
  have quiet : ∀ {e : Event} {change : Queue → Queue}, (c.step e).queue = change c.queue →
      (c.step e).hasStopped = c.hasStopped → (c.step e).ended = c.ended →
      s.queue.SameWork (change s.queue) → ∃ events, (c.after events).LedTo (change s.queue) :=
    fun hq hgoing hended hwork =>
      event (h.sameOutcome (by rw [hq, h.queue]) hgoing hended hwork.outcome)
  cases a with
  | run ts => exact event (h.ask (.run ts))
  | update changed => exact event (h.ask (.update changed))
  | observe => exact quiet (e := .observe) rfl rfl rfl (Queue.sameWork_observe _)
  | read refused => exact same (s.spares_read refused files)
  | look => exact same s.spares_look
  | fetch refused i => exact same (s.spares_fetch refused files i)
  | settle i => exact same (s.spares_settle i)
  | leave i => exact same (s.spares_leave i)
  | shutDown => exact quiet (e := .shutDown) rfl rfl rfl (Queue.sameWork_shutDown _)
  | take => exact event h.take
  | build refused now =>
      obtain ⟨hb, -⟩ | ⟨job, -, -, files', ⟨x, -, hb⟩ | ⟨failure, hbuilt, hb⟩⟩ :=
        s.of_build refused now files
      · exact ⟨[], by rw [act, hb]; exact h⟩
      · exact ⟨[], by rw [act, hb]; exact h⟩
      · refine event (e := .finish (.error failure)) ?_
        rw [act, hb]
        exact h.finish fun e => ne_cancelled_of_construct hbuilt (Except.error.inj e)
  | publish =>
      cases hw : s.written with
      | none => exact ⟨[], by rw [act, publish_of_none hw]; exact h⟩
      | some w =>
          refine event (e := .finish (.ok w.2)) ?_
          rw [act, publish, hw]
          exact h.finish fun e => by cases e
  | collect => exact event h.collect
  | answer => exact quiet (e := .answer) rfl rfl rfl (Queue.sameWork_answer _)
  | notify => exact quiet (e := .notify) rfl rfl rfl (Queue.sameWork_notify _)
  | rest => exact quiet (e := .rest) rfl rfl rfl (Queue.sameWork_rest _)

/-- **The queue of a service has a course.** -/
theorem exists_ledTo {store : Store} {rule : TermRule} {s : Service}
    (h : Reachable store rule s) : ∃ events, (Course.start.after events).LedTo s.queue := by
  induction h with
  | start => exact ⟨[], rfl, rfl, nofun, nofun⟩
  | act _ files a ih =>
      obtain ⟨events, hevents⟩ := ih
      obtain ⟨more, hmore⟩ := exists_ledTo_act hevents files a
      refine ⟨events ++ more, ?_⟩
      rw [Course.after, List.foldl_append]
      exact hmore

/-- **No request is lost or answered twice.**  Whatever callers and the worker do, and however the
builds end, every handle is in exactly one place: it waits with the one request that waits, or is
carried by the one build in flight; or it was told the outcome of the one build that did what it
asked for; or it was issued after the shutdown and told that it is cancelled.  The requests of a
service are dealt with in this way, and there no build ends with a cancellation. -/
theorem requests_accounted :
    (∀ events, (Course.start.after events).Accounted) ∧
    ∀ (store : Store) (rule : TermRule) (s : Service), Reachable store rule s →
      ∃ events, (Course.start.after events).queue = s.queue ∧
        ∀ e ∈ (Course.start.after events).ended, e.2 ≠ .error .cancelled :=
  ⟨fun events => (kept_after events).accounted, fun _ _ _ h =>
    let ⟨events, hled⟩ := exists_ledTo h
    ⟨events, hled.queue, hled.uncancelled⟩⟩

/-- The one handle of a service that builds is carried by its build. -/
theorem fresh_accounted :
    ∃ events, (Course.start.after events).queue = (fresh "index" []).queue ∧
      ∀ p, (Course.start.after events).IsAt 0 p ↔ p = .building := by
  obtain ⟨events, hq, -⟩ := requests_accounted.2 _ _ _ (reachable_fresh "index" [])
  have building : (Course.start.after events).IsAt 0 .building := by
    rw [IsAt, hq]
    exact List.mem_singleton_self 0
  obtain ⟨p, -, only⟩ := (requests_accounted.1 events).place 0 (by rw [hq]; decide)
  exact ⟨events, hq, fun p' => ⟨fun hp' => (only p' hp').trans (only _ building).symm,
    fun e => e ▸ building⟩⟩

end Service

end TranscriptSearch
