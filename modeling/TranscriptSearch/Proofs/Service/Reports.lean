import TranscriptSearch.Proofs.Index.Postings
import TranscriptSearch.Proofs.Index.Report
import TranscriptSearch.Proofs.Service.Account

/-!
# Service — what callers learn of their transcripts

A request for changed transcripts keeps one transcript for each key, the last one, before any build
looks at it.  The build never sees the copies that were overridden, and its report cannot tell of
them; a request for all transcripts keeps its list as it is, and the report on it is complete.

* `Request.perm_ofChanged`: a request for changed transcripts brings the last copies.
* `Report.PassesOver`: a report that says nothing of overridden copies.
* `Service.told_complete`: what a service at rest tells a caller, whatever was asked for.
* `Service.reports_of_requests`: which of the two reports is complete.
-/

namespace TranscriptSearch

/-! ### The changed transcripts of a request -/

namespace Request

open Batch
open Index.Log (Distinct)

/-- The changed transcripts of a request ascend by their keys. -/
theorem Keyed.ascending_values {m : SortedMap SessionKey Transcript} (h : Keyed m) :
    m.values.Pairwise fun t u => compare t.key u.key = .lt := by
  rw [SortedMap.values, List.pairwise_map]
  refine m.ascending.imp_of_mem fun {p q} hp hq hlt => ?_
  rwa [h ((SortedMap.get?_eq_some_iff m p.1 p.2).2 hp),
    h ((SortedMap.get?_eq_some_iff m q.1 q.2).2 hq)]

variable (ts : List Transcript)

theorem ascending_ofChanged :
    (ofChanged ts).batch.Pairwise fun t u => compare t.key u.key = .lt :=
  Keyed.ascending_values (isKeyed_ofChanged ts)

theorem distinct_ofChanged : Distinct (ofChanged ts).batch := by
  refine (ascending_ofChanged ts).imp fun {t u} hlt he => ?_
  rw [he] at hlt
  exact SortedMap.irrefl_lt _ hlt

/-- **A request for changed transcripts brings their last copies**, in the order of the keys. -/
theorem perm_ofChanged : (ofChanged ts).batch.Perm (lastCopies ts) := by
  refine perm_of_last? (distinct_ofChanged ts) (distinct_lastCopies ts) fun k => ?_
  rw [last?_lastCopies, last?_ofChanged]

end Request

/-! ### The report on changed transcripts -/

namespace Report

open Batch
open Index.Log (Distinct)

/-- A report on a batch passes over the copies that are not the last of their keys. -/
structure PassesOver (r : Report) (batch : List Transcript) : Prop where
  /-- It counts the transcripts that a report on the whole batch counts. -/
  indexed : r.indexed = (ofBatch batch).indexed
  /-- It rejects the last copies that such a report rejects, in the order of their keys. -/
  skipped : ∃ ts : List Transcript, ts.Perm (lastCopies batch) ∧
    ts.Pairwise (fun t u => compare t.key u.key = .lt) ∧ r.skipped = ts.filterMap rejection?
  /-- It tells of no copy that is overridden. -/
  silent : ∀ k, .duplicateSession k ∉ r.skipped
  /-- So these are missing from the account. -/
  shortfall : r.indexed + r.skipped.length + (overridden batch).length = batch.length
  /-- It accounts for the batch just where no key is repeated. -/
  total_iff : r.indexed + r.skipped.length = batch.length ↔ Distinct batch

theorem ofBatch_of_distinct {batch : List Transcript} (h : Distinct batch) :
    ofBatch batch = ⟨(batch.filter isValid).length, batch.filterMap rejection?⟩ := by
  rw [ofBatch, accepted, lastCopies_of_distinct h, overridden_eq_nil_iff.2 h]
  rfl

/-- **The report on changed transcripts passes over overridden copies.** -/
theorem passesOver_ofChanged (ts : List Transcript) :
    (ofBatch (Request.ofChanged ts).batch).PassesOver ts := by
  have perm := Request.perm_ofChanged ts
  have report := ofBatch_of_distinct (Request.distinct_ofChanged ts)
  have total := length_accepted_add ts
  have others := length_overridden_add ts
  have indexed : (ofBatch (Request.ofChanged ts).batch).indexed = (accepted ts).length := by
    rw [report]
    exact (perm.filter isValid).length_eq
  have skipped : (ofBatch (Request.ofChanged ts).batch).skipped.length =
      ((lastCopies ts).filterMap rejection?).length := by
    rw [report]
    exact (perm.filterMap rejection?).length_eq
  refine ⟨indexed, ⟨_, perm, Request.ascending_ofChanged ts, by rw [report]⟩, fun k hk => ?_, ?_,
    ?_⟩
  · rw [report] at hk
    obtain ⟨t, -, ht⟩ := List.mem_filterMap.1 hk
    obtain ⟨p, -, hp⟩ := Option.map_eq_some_iff.1 ht
    cases hp
  · omega
  · rw [← overridden_eq_nil_iff, ← List.length_eq_zero_iff]
    omega

end Report

namespace Service

open Course

variable {store : Store} {rule : TermRule} {s : Service}

/-- A reachable service has told nothing to a caller who is yet to come. -/
theorem told_handles (h : Reachable store rule s) : s.queue.told s.queue.handles = [] := by
  obtain ⟨events, hled⟩ := exists_ledTo h
  rw [← hled.queue]
  refine Course.Kept.told_eq_nil fun o ho => ?_
  exact Nat.lt_irrefl _ ((kept_after events).accounted.issued _ ho)

theorem written_of_isIdle (h : s.Sound) (hidle : s.queue.isIdle = true) : s.written = none := by
  rw [Queue.isIdle, Bool.and_eq_true, Stage.isIdle_iff] at hidle
  refine Option.eq_none_iff_forall_not_mem.2 fun w hw => ?_
  obtain ⟨-, job, hjob, -⟩ := h.written w hw
  rw [hidle.1] at hjob
  cases hjob

theorem told_concat {q q' : Queue} {a : Handle} {outcome : Outcome} (h : q.told a = [])
    (hq : q'.answers = q.answers ++ [(a, outcome)]) : q'.told a = [outcome] := by
  rw [Queue.told, hq, Queue.map_snd_filter_concat, if_pos rfl]
  exact congrArg (· ++ [outcome]) h

/-- Who asks a queue at rest after the shutdown leaves nothing for the worker to take. -/
theorem take_ask_of_shut {q : Queue} (hpending : q.pending = none) (hshut : q.isShutDown = true)
    (a : Ask) : (q.ask a).take = q.ask a := by
  rw [Queue.ask_of_shut hshut]
  refine Queue.take_of_none ?_
  rw [Queue.next?, hpending]
  exact ite_self none

/-- Who asks a queue at rest before the shutdown is the next one whom the worker builds for. -/
theorem take_ask_of_open {q : Queue} (hstage : q.stage = .idle) (hpending : q.pending = none)
    (hopen : q.isShutDown = false) (a : Ask) :
    (q.ask a).take = { q with
      handles := q.handles + 1
      stage := .building ⟨a.fresh, [q.handles]⟩
      pending := none } := by
  rw [Queue.ask_of_open hopen, Queue.take, hstage, hpending]
  rfl

/-- A build ends in the way that its request can be constructed, and nobody was told of it when the
snapshot is current. -/
theorem queue_publish {job : Job} (hstage : s.queue.stage = .building job)
    (hwritten : s.written = none) (refused : Refusals) (now : Moment) (files : FileTree) :
    (s.build refused now files).1.publish.queue = { s.queue with
      stage :=
        .ended job ((s.construct refused now files job.request).2.map job.request.summary) } := by
  have hjob := Stage.job?_eq_some_iff.2 hstage
  obtain ⟨-, idle⟩ | ⟨job', hjob', -, files', hbuild⟩ := s.of_build refused now files
  · rw [idle hwritten] at hjob
    cases hjob
  · obtain rfl := Option.some.inj (hjob.symm.trans hjob')
    obtain ⟨x, hbuilt, hbuild⟩ | ⟨failure, hbuilt, hbuild⟩ := hbuild
    · rw [hbuild, hbuilt]
      exact Queue.finish_of_job hjob (.ok (job.request.summary x))
    · have unwritten :=
        publish_of_none (s := { s with queue := s.queue.finish (.error failure) }) hwritten
      rw [hbuild, hbuilt, unwritten]
      exact Queue.finish_of_job hjob (.error failure)

/-- **A service at rest tells a caller once** how the build of its request ended. -/
theorem told_complete (h : Reachable store rule s) (hidle : s.queue.isIdle = true) (a : Ask)
    (refused : Refusals) (now : Moment) (files : FileTree) :
    (complete refused now (s.withQueue (Queue.ask · a), files)).1.queue.told s.queue.handles =
      [if s.queue.isShutDown then .error .cancelled
        else (s.construct refused now files a.fresh).2.map a.fresh.summary] := by
  have untold := told_handles h
  have unwritten := written_of_isIdle (sound_of_reachable h) hidle
  rw [Queue.isIdle, Bool.and_eq_true, Stage.isIdle_iff, Option.isNone_iff_eq_none] at hidle
  have run : complete refused now (s.withQueue (Queue.ask · a), files) =
      ((((s.withQueue fun q => (q.ask a).take).build refused now files).1.publish).withQueue
        fun q => q.collect.deliver.rest,
        ((s.withQueue fun q => (q.ask a).take).build refused now files).2) := rfl
  rw [run, withQueue]
  cases hshut : s.queue.isShutDown with
  | true =>
      have idle : (s.queue.ask a).stage = .idle := by
        rw [Queue.ask_of_shut hshut]
        exact hidle.1
      have away : (s.withQueue fun q => (q.ask a).take).build refused now files =
          (s.withQueue fun q => q.ask a, files) := by
        rw [withQueue, take_ask_of_shut hidle.2 hshut, build, idle]
        rfl
      have unpublished := publish_of_none (s := s.withQueue fun q => q.ask a) unwritten
      rw [away, unpublished, withQueue, Queue.rest_of_idle idle]
      refine told_concat untold ?_
      rw [Queue.ask_of_shut hshut, if_pos rfl]
  | false =>
      have taken := take_ask_of_open hidle.1 hidle.2 hshut a
      have stage : (s.withQueue fun q => (q.ask a).take).queue.stage =
          .building ⟨a.fresh, [s.queue.handles]⟩ := by
        rw [withQueue, taken]
      have silent : (s.withQueue fun q => (q.ask a).take).queue.told s.queue.handles = [] := by
        rw [withQueue, taken]
        exact untold
      have ended := queue_publish stage unwritten refused now files
      refine told_concat silent ?_
      rw [Queue.rest_of_ended (by rw [ended]), ended]
      rfl

/-- **Only builds of all transcripts account for their batch.**  The report on a build accounts for
every transcript, the report on changed transcripts passes over those that are overridden. -/
theorem reports_of_requests (h : Reachable store rule s) (hidle : s.queue.isIdle = true)
    (batch : List Transcript) (refused : Refusals) (now : Moment) (files : FileTree) :
    (∃ outcome, (complete refused now (s.withQueue fun q => q.run batch, files)).1.queue.told
        s.queue.handles = [outcome] ∧
      ∀ {summary}, outcome = .ok summary → summary.report.Accounts batch (.build s.rule batch)) ∧
    ∃ outcome, (complete refused now (s.withQueue fun q => q.update batch, files)).1.queue.told
        s.queue.handles = [outcome] ∧
      ∀ {summary}, outcome = .ok summary → summary.report.PassesOver batch := by
  have reported : ∀ (r : Request) {summary : BuildSummary},
      (if s.queue.isShutDown then Except.error BuildFailure.cancelled
        else (s.construct refused now files r).2.map r.summary) = .ok summary →
      summary.report = .ofBatch r.batch := fun r summary hr => by
    split at hr
    · cases hr
    · cases hbuilt : (s.construct refused now files r).2 with
      | error failure => rw [hbuilt] at hr; cases hr
      | ok x => rw [hbuilt] at hr; cases hr; rfl
  refine ⟨⟨_, told_complete h hidle (.run batch) refused now files, fun {summary} hr => ?_⟩,
    ⟨_, told_complete h hidle (.update batch) refused now files, fun {summary} hr => ?_⟩⟩
  · rw [reported _ hr]
    exact Report.accounts_merge (.empty s.rule) batch
  · rw [reported _ hr]
    exact Report.passesOver_ofChanged batch

/-! ### A session that is supplied twice -/

/-- A service that has done nothing yet deals with a request. -/
def firstTold (request : Queue → Queue) : List Outcome :=
  (complete .none (.atSecond 0)
    ((start ⟨"index".toList, []⟩ default).withQueue request, .empty)).1.queue.told 0

/-- One session twice. -/
def twice : List Transcript := [oneLine ⟨0x3FF0000000000000⟩, oneLine ⟨0x3FF0000000000000⟩]

/-- The reports in outcomes. -/
def reports (outcomes : List Outcome) : List (Option Report) :=
  outcomes.map fun outcome => outcome.toOption.map BuildSummary.report

theorem reports_run_twice :
    reports (firstTold fun q => q.run twice) = [some ⟨1, [.duplicateSession ⟨2015, 1⟩]⟩] := by
  decide

theorem reports_update_twice : reports (firstTold fun q => q.update twice) = [some ⟨1, []⟩] := by
  decide

/-- **An update does not account for an overridden copy**, a build does. -/
theorem update_misses_copy :
    reports (firstTold fun q => q.run twice) = [some ⟨1, [.duplicateSession ⟨2015, 1⟩]⟩] ∧
      ∃ r : Report, reports (firstTold fun q => q.update twice) = [some r] ∧
        r.indexed + r.skipped.length ≠ twice.length ∧ .duplicateSession ⟨2015, 1⟩ ∉ r.skipped :=
  ⟨reports_run_twice, _, reports_update_twice, by decide, List.not_mem_nil⟩

/-- The two reports on it. -/
theorem twice_reported :
    (∃ summary, firstTold (fun q => q.run twice) = [.ok summary] ∧
      summary.report.Accounts twice (.build default twice)) ∧
    ∃ summary, firstTold (fun q => q.update twice) = [.ok summary] ∧
      summary.report.PassesOver twice := by
  have fine : ∀ {outcome : Outcome} {r : Report}, reports [outcome] = [some r] →
      ∃ summary, outcome = .ok summary := fun {outcome r} h => by
    cases outcome with
    | error failure => cases h
    | ok summary => exact ⟨summary, rfl⟩
  have built := reports_run_twice
  have updated := reports_update_twice
  have new : Reachable ⟨"index".toList, []⟩ default (start ⟨"index".toList, []⟩ default) := .start
  obtain ⟨⟨o, ho, accounts⟩, o', ho', passes⟩ :=
    reports_of_requests new rfl twice .none (.atSecond 0) .empty
  replace ho : firstTold (fun q => q.run twice) = [o] := ho
  replace ho' : firstTold (fun q => q.update twice) = [o'] := ho'
  rw [ho] at built
  rw [ho'] at updated
  obtain ⟨summary, rfl⟩ := fine built
  obtain ⟨summary', rfl⟩ := fine updated
  exact ⟨⟨summary, ho, accounts rfl⟩, summary', ho', passes rfl⟩

end Service

end TranscriptSearch
