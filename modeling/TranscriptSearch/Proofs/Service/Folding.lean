import TranscriptSearch.Proofs.CommandLine.Catalogue
import TranscriptSearch.Proofs.Service.Build
import TranscriptSearch.Proofs.Service.Coalescing

/-!
# Service — what a fold gives up

Changed transcripts take the places of the waiting ones with their keys before anybody looks at
their timecodes; a build looks at the last copies alone.  So a waiting copy is given up for a later
one even when that one is rejected then.  What was indexed before is not: a rejected copy leaves its
session as the build found it.

* `Index.SameOn`: two indexes hold the same of one session.
* `Request.foldAll`, `Request.inTurn`: several batches are folded into a request, or built after it;
  `Request.foldAll_eq`: they are folded in as one.
* `Request.sameOn_foldAll`: session by session, what the two have in common.
* `Service.fold_keeps_indexed`: what becomes of each session when a folded request is built.
-/

namespace TranscriptSearch

open Batch

namespace Index

/-! ### One session -/

/-- Two indexes hold the same of a session. -/
structure SameOn (x y : Index) (k : SessionKey) : Prop where
  /-- Its attributes, its terms and its lines, or that there is none. -/
  session : x.sessions.get? k = y.sessions.get? k
  /-- The occurrences of each term in it, in the same order. -/
  occurrencesIn : ∀ term, x.occurrencesIn k term = y.occurrencesIn k term

variable {x y z : Index} {k : SessionKey} {a b : List Transcript}

theorem SameOn.symm (h : x.SameOn y k) : y.SameOn x k :=
  ⟨h.session.symm, fun term => (h.occurrencesIn term).symm⟩

theorem SameOn.trans (h : x.SameOn y k) (h' : y.SameOn z k) : x.SameOn z k :=
  ⟨h.session.trans h'.session, fun term => (h.occurrencesIn term).trans (h'.occurrencesIn term)⟩

/-- A merge leaves a session alone of which no copy stands. -/
theorem Linked.sameOn_merge_self (h : x.Linked) (ha : standing? k a = none) :
    (x.merge a).SameOn x k where
  session := by rw [sessions_merge, ha]; rfl
  occurrencesIn term := by rw [h.occurrencesIn_merge, ha]; rfl

/-- Merges into different indexes bring the same session where the same copy stands. -/
theorem Linked.sameOn_merge (hx : x.Linked) (hy : y.Linked) (hrule : x.rule = y.rule)
    {t : Transcript} (ha : standing? k a = some t) (hb : standing? k b = some t) :
    (x.merge a).SameOn (y.merge b) k where
  session := by rw [sessions_merge, sessions_merge, ha, hb, hrule]; rfl
  occurrencesIn term := by rw [hx.occurrencesIn_merge, hy.occurrencesIn_merge, ha, hb, hrule]; rfl

/-- So do merges into one index. -/
theorem Linked.sameOn_merge_merge (h : x.Linked) (hab : standing? k a = standing? k b) :
    (x.merge a).SameOn (x.merge b) k := by
  cases hb : standing? k b with
  | none => exact (h.sameOn_merge_self (hab.trans hb)).trans (h.sameOn_merge_self hb).symm
  | some t => exact h.sameOn_merge h rfl (hab.trans hb) hb

end Index

namespace Request

/-! ### Several batches -/

/-- A request with several batches of changed transcripts folded in, one after the other. -/
def foldAll (r : Request) (batches : List (List Transcript)) : Request := batches.foldl fold r

/-- What a request and then several batches make of an index, each in a build of its own. -/
def inTurn (rule : TermRule) (b : Found) (r : Request) (batches : List (List Transcript)) : Found :=
  batches.foldl (fun b ts => (ofChanged ts).onto rule b) (r.onto rule b)

variable {r : Request} {rule : TermRule} {k : SessionKey}

/-- Several batches are folded in as one. -/
theorem foldAll_eq (r : Request) (batches : List (List Transcript)) :
    r.foldAll batches = r.fold batches.flatten := by
  induction batches generalizing r with
  | nil => exact r.fold_nil.symm
  | cons ts batches ih =>
      rw [List.flatten_cons, ← fold_fold]
      exact ih (r.fold ts)

theorem ground_foldAll (b : Found) (batches : List (List Transcript)) :
    (r.foldAll batches).ground rule b = r.ground rule b := by
  rw [foldAll_eq, ground_fold]

/-- Of several batches the last copies count, as if they were one. -/
theorem last?_foldAll (h : r.IsKeyed) (batches : List (List Transcript)) (k : SessionKey) :
    last? k (r.foldAll batches).batch = (last? k batches.flatten).or (last? k r.batch) := by
  rw [foldAll_eq, last?_fold h]

/-- Several builds of changed transcripts. -/
def mergeAll (x : Index) (batches : List (List Transcript)) : Index :=
  batches.foldl (fun x ts => x.merge (ofChanged ts).batch) x

theorem inTurn_of_ground {b : Found} {base : Index} (h : r.ground rule b = .ok base)
    (batches : List (List Transcript)) :
    r.inTurn rule b batches = .ok (mergeAll (base.merge r.batch) batches) := by
  have start : r.onto rule b = .ok (base.merge r.batch) := by
    rw [onto_eq, h]
    rfl
  rw [inTurn, start, mergeAll]
  generalize base.merge r.batch = x
  induction batches generalizing x with
  | nil => rfl
  | cons ts batches ih => exact ih _

/-- Where the last copy of a session is valid, or there is none, several builds are one. -/
theorem sameOn_mergeAll {x : Index} (h : x.Linked) {batches : List (List Transcript)}
    (hvalid : ∀ t, last? k batches.flatten = some t → isValid t = true) :
    (mergeAll x batches).SameOn (x.merge batches.flatten) k := by
  induction batches generalizing x with
  | nil => exact (h.sameOn_merge_self rfl).symm
  | cons ts batches ih =>
      have hlast := last?_append k ts batches.flatten
      rw [← List.flatten_cons] at hlast
      have later := h.merge (ofChanged ts).batch
      cases hl : last? k batches.flatten with
      | none =>
          have here : standing? k (ofChanged ts).batch = standing? k (ts :: batches).flatten := by
            rw [standing?_ofChanged, standing?, standing?, hlast, hl, Option.none_or]
          have rest := ih later fun t ht => by rw [hl] at ht; cases ht
          exact (rest.trans (later.sameOn_merge_self (standing?_of_none hl))).trans
            (h.sameOn_merge_merge here)
      | some t =>
          rw [hl, Option.some_or] at hlast
          have hv := hvalid t hlast
          have rest := ih later fun u hu => by
            rw [hl] at hu
            cases hu
            exact hv
          exact rest.trans (later.sameOn_merge h (Index.rule_merge _ _) (standing?_of_valid hl hv)
            (standing?_of_valid hlast hv))

/-- **A fold, session by session.**  A session is as the base has it where the last copy that is
folded in is not valid, and elsewhere as it is after a build for each request. -/
theorem sameOn_foldAll {base : Index} (h : base.Linked) (hr : r.IsKeyed)
    (batches : List (List Transcript)) :
    (∀ t, last? k batches.flatten = some t → isValid t = false →
      (base.merge (r.foldAll batches).batch).SameOn base k) ∧
    ((∀ t, last? k batches.flatten = some t → isValid t = true) →
      (base.merge (r.foldAll batches).batch).SameOn (mergeAll (base.merge r.batch) batches) k) := by
  have hlast := last?_foldAll hr batches k
  refine ⟨fun t ht hinvalid => ?_, fun hvalid => ?_⟩
  · rw [ht, Option.some_or] at hlast
    exact h.sameOn_merge_self (standing?_of_invalid hlast hinvalid)
  · have first := h.merge r.batch
    refine Index.SameOn.trans ?_ (sameOn_mergeAll first hvalid).symm
    cases hl : last? k batches.flatten with
    | none =>
        rw [hl, Option.none_or] at hlast
        have waiting : standing? k (r.foldAll batches).batch = standing? k r.batch := by
          rw [standing?, standing?, hlast]
        exact (h.sameOn_merge_merge waiting).trans
          (first.sameOn_merge_self (standing?_of_none hl)).symm
    | some t =>
        rw [hl, Option.some_or] at hlast
        have hv := hvalid t hl
        exact h.sameOn_merge first (Index.rule_merge _ _).symm (standing?_of_valid hlast hv)
          (standing?_of_valid hl hv)

end Request

namespace Service

open Request

/-! ### Requests that wait -/

/-- Changed transcripts are folded into the request that waits. -/
theorem request_update {q : Queue} {job : Job} (hpending : q.pending = some job)
    (hopen : q.isShutDown = false) (changed : List Transcript) :
    (q.update changed).isShutDown = false ∧
      ∃ waiters, (q.update changed).pending = some ⟨job.request.fold changed, waiters⟩ := by
  refine ⟨(Queue.isShutDown_enqueue ..).trans hopen, job.waiters ++ [q.handles], ?_⟩
  rw [Queue.update, Queue.pending_enqueue, if_neg (ne_true_of_eq_false hopen), hpending]
  rfl

theorem perform_updates {w : Service × FileTree} {job : Job}
    (hpending : w.1.queue.pending = some job)
    (hopen : w.1.queue.isShutDown = false) (batches : List (List Transcript)) :
    ∃ waiters, (perform w (batches.map .update)).1.queue.pending =
      some ⟨job.request.foldAll batches, waiters⟩ := by
  induction batches generalizing w job with
  | nil => exact ⟨job.waiters, hpending⟩
  | cons ts batches ih =>
      obtain ⟨still, waiters, hnext⟩ := request_update hpending hopen ts
      exact ih (w := act w (.update ts)) hnext still

/-- **A fold gives up what waits, not what is indexed.**  Take the request that waits at a service,
and any batches that are folded into it.  When a build of the whole succeeds, a session whose last
folded copy is not valid is as the build found it, so that a full build has none; every other
session is as if the requests had been built one after the other. -/
theorem fold_keeps_indexed {store : Store} {rule : TermRule} {s : Service}
    (h : Reachable store rule s)
    {job : Job} (hpending : s.queue.pending = some job) (hopen : s.queue.isShutDown = false)
    (batches : List (List Transcript)) :
    (∀ files, ∃ waiters, (perform (s, files) (batches.map .update)).1.queue.pending =
      some ⟨job.request.foldAll batches, waiters⟩) ∧
    ∀ {t : Service}, Reachable store rule t → ∀ {waiters refused now files x},
      t.Succeeds ⟨job.request.foldAll batches, waiters⟩ refused now files x →
      ∃ base y, job.request.ground t.rule (t.base refused files) = .ok base ∧
        job.request.inTurn t.rule (t.base refused files) batches = .ok y ∧
        ∀ k, ((∃ c, last? k batches.flatten = some c ∧ isValid c = false) → x.index.SameOn base k) ∧
          ((∀ c, last? k batches.flatten = some c → isValid c = true) → x.index.SameOn y k) := by
  refine ⟨fun files => perform_updates hpending hopen batches,
    fun {t} ht {waiters refused now files x} hx => ?_⟩
  have keyed := (sound_of_reachable h).pending job hpending
  have built := hx.index
  rw [newIndex_eq_onto, onto_eq, ground_foldAll] at built
  cases hground : job.request.ground t.rule (t.base refused files) with
  | error e => rw [hground] at built; cases built
  | ok base =>
      rw [hground] at built
      have index : base.merge (job.request.foldAll batches).batch = x.index := Except.ok.inj built
      have linked : base.Linked := linked_ground
        (fun y hy => (sound_of_reachable ht).linked_base hy) t.rule job.request base hground
      refine ⟨base, _, rfl, inTurn_of_ground hground batches, fun k => ⟨?_, fun hvalid => ?_⟩⟩
      · rintro ⟨c, hc, hinvalid⟩
        exact index ▸ (sameOn_foldAll linked keyed batches).1 c hc hinvalid
      · exact index ▸ (sameOn_foldAll linked keyed batches).2 hvalid

/-! ### A valid copy that waits -/

/-- A session of one line, and a copy of it with a timecode below zero. -/
def copies : Transcript × Transcript := (oneLine ⟨0x3FF0000000000000⟩, oneLine ⟨0xBFF0000000000000⟩)

/-- A service that has done nothing yet, and no files. -/
def unused : Service × FileTree := (start ⟨"index".toList, []⟩ default, .empty)

/-- The lines of the session in the current snapshot. -/
def linesHeld (w : Service × FileTree) : Option (Option (List Line)) :=
  w.1.current.map fun x => x.index.lines? ⟨2015, 1⟩

/-- The two requests are folded into one, or each has a build of its own. -/
def foldedAndInTurn (first : Action) : Option (Option (List Line)) × Option (Option (List Line)) :=
  (linesHeld
      (perform unused [first, .update [copies.2], .take, .build .none (.atSecond 0), .publish]),
    linesHeld (oneByOne unused [(first, .atSecond 0), (.update [copies.2], .atSecond 0)]))

/-- **A valid copy is lost while it waits.**  Folded, a copy that is rejected takes the place of the
valid one; of two builds the second leaves what the first has brought.  It is so whether all
transcripts wait or changed ones. -/
theorem fold_loses_copy :
    foldedAndInTurn (.run [copies.1]) = (some none, some (some copies.1.lines)) ∧
      foldedAndInTurn (.update [copies.1]) = (some none, some (some copies.1.lines)) := by
  constructor
  · decide
  · decide

/-- The session is as the build found it: there is none. -/
theorem copies_keep_indexed :
    ∃ x, (perform unused [.update [copies.1], .update [copies.2], .take]).1.Succeeds
        ⟨(ofChanged [copies.1]).foldAll [[copies.2]], [0, 1]⟩ .none (.atSecond 0) .empty x ∧
      x.index.SameOn (.empty default) ⟨2015, 1⟩ := by
  have waits : Reachable ⟨"index".toList, []⟩ default (act unused (.update [copies.1])).1 :=
    .act .start .empty (.update [copies.1])
  obtain ⟨-, built⟩ := fold_keeps_indexed waits rfl rfl [[copies.2]]
  have reached : Reachable ⟨"index".toList, []⟩ default
      (perform unused [.update [copies.1], .update [copies.2], .take]).1 :=
        Reachable.start.perform _
  obtain ⟨x, hx⟩ | ⟨failure, hf⟩ := build_all_or_nothing reached rfl rfl .none (.atSecond 0) .empty
  · have nothing : (ofChanged [copies.1]).ground default
        ((perform unused [.update [copies.1], .update [copies.2], .take]).1.base .none .empty) =
          .ok (.empty default) := by rfl
    obtain ⟨base, y, hbase, -, same⟩ := built reached hx
    obtain rfl := Except.ok.inj (nothing.symm.trans hbase)
    exact ⟨x, hx, (same ⟨2015, 1⟩).1 ⟨copies.2, by decide, by decide⟩⟩
  · have written : ((perform unused [.update [copies.1], .update [copies.2], .take]).1.build .none
        (.atSecond 0) .empty).1.written.isSome = true := by decide
    rw [hf.memory] at written
    cases written

end Service

end TranscriptSearch
