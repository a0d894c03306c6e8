import TranscriptSearch.Proofs.Service.Reachable

/-!
# Service — the grouping of requests does not show

Requests that are made while a build runs are folded into one, so that it depends on the pace of
the worker which builds there are.  The snapshot that is current in the end does not depend on it:
it answers as if each request had been built on its own, in the order of the requests.

* `Service.accepted`: the requests that a service takes on in a run.
* `Service.oneByOne`: each request is built before the next one is made.
* `Service.outlook`: the index that a service will have when it has done what it was asked to do.
* `Service.Tracks`: the outlook is what the requests in turn make of the first index.
* `Service.Tracks.act`: every action keeps it so.
* `Service.Tracks.alikeInMemory`, `Service.Tracks.alike`: two services at rest that did the same
  requests answer alike.
-/

namespace TranscriptSearch

/-! ### Requests -/

namespace Action

/-- Whether a caller asks for a build. -/
def asks : Action → Bool
  | .run _ | .update _ => true
  | _                  => false

/-- Whether a caller shuts the service down. -/
def closes : Action → Bool
  | .shutDown => true
  | _         => false

/-- The machine refuses nothing to a build. -/
def IsSmooth : Action → Prop
  | .build refused _ => refused = .none
  | _                => True

/-- Changed transcripts have valid timecodes. -/
def IsValid : Action → Prop
  | .update changed => ∀ t ∈ changed, Batch.isValid t = true
  | _               => True

/-- What a request makes of an index when nothing comes between. -/
def onto (rule : TermRule) (b : Found) : Action → Found
  | .run transcripts => .ok (.build rule transcripts)
  | .update changed  => b.map (·.merge changed)
  | _                => b

theorem onto_congr {a b : Found} (h : a.Agree b) (rule : TermRule) (action : Action) :
    (action.onto rule a).Agree (action.onto rule b) := by
  cases action with
  | run ts => exact ⟨Index.linked_build rule ts, Index.linked_build rule ts, .refl _⟩
  | update changed => exact h.map_merge changed
  | _ => exact h

end Action

/-- What a job, if there is one, makes of an index. -/
def Found.after (b : Found) (rule : TermRule) : Option Job → Found
  | none     => b
  | some job => job.request.onto rule b

theorem Found.Linked.after {b : Found} (h : b.Linked) (rule : TermRule) (job? : Option Job) :
    (b.after rule job?).Linked := by
  cases job? with
  | none => exact h
  | some job => exact (Request.onto_congr h.agree rule job.request).linked

namespace Service

/-- The requests that are made before the shutdown. -/
def accepted (isShutDown : Bool) (actions : List Action) : List Action :=
  if isShutDown then [] else (actions.takeWhile fun a => !a.closes).filter Action.asks

/-- The service and the files when each request, from making it to coming to rest, is dealt with
before the next one. -/
def oneByOne (w : Service × FileTree) (asked : List (Action × Moment)) : Service × FileTree :=
  asked.foldl (fun w p => complete .none p.2 (act w p.1)) w

/-- The index that will be current after the build that is under way. -/
def atWork (s : Service) (files : FileTree) : Found :=
  match s.written with
  | some w => .ok w.1.index
  | none   => Found.after (s.base .none files) s.rule s.queue.stage.job?

/-- The index that will be current after all that was asked for. -/
def outlook (s : Service) (files : FileTree) : Found :=
  (s.atWork files).after s.rule s.queue.pending

/-- The snapshots in the memories of two services answer alike. -/
def AlikeInMemory (w w' : Service × FileTree) : Prop :=
  Option.Rel (fun x y => x.index.Alike y.index) w.1.current w'.1.current

/-- Two services answer alike: their current snapshots do, and so do those that are read. -/
structure Alike (w w' : Service × FileTree) : Prop where
  /-- The snapshots in memory answer alike. -/
  current : AlikeInMemory w w'
  /-- So does what a reader is given, whatever the machine refuses it. -/
  read : ∀ refused, match (w.1.read refused w.2).2, (w'.1.read refused w'.2).2 with
    | .ok found, .ok found'       => Option.Rel (fun x y => x.index.Alike y.index) found found'
    | .error fault, .error fault' => fault = fault'
    | _, _                        => False

/-! ### Accepted requests -/

theorem accepted_nil (isShutDown : Bool) : accepted isShutDown [] = [] := by
  cases isShutDown <;> rfl

theorem accepted_cons (isShutDown : Bool) (a : Action) (actions : List Action) :
    accepted isShutDown (a :: actions) =
      accepted isShutDown [a] ++ accepted (isShutDown || a.closes) actions := by
  cases isShutDown with
  | true => rfl
  | false => cases a <;> rfl

/-- Whatever is no request adds none. -/
theorem accepted_of_asks_eq_false {a : Action} (ha : a.asks = false) (isShutDown : Bool) :
    accepted isShutDown [a] = [] := by
  cases isShutDown with
  | true => rfl
  | false => cases a <;> first | rfl | cases ha

/-! ### The invariant -/

/-- The index that a service will have is what the requests in turn make of the first one.  Readers
have met refusals of one kind only. -/
structure Tracks (allowed : Refusals → Prop) (o : Service × FileTree) (asked : List Action)
    (w : Service × FileTree) : Prop where
  /-- Snapshots are still written to the same place. -/
  store : w.1.store = o.1.store
  /-- Terms are still cut by the same rule. -/
  rule : w.1.rule = o.1.rule
  /-- The service is sound. -/
  sound : w.1.Sound
  /-- Saves succeed. -/
  accepts : o.1.store.Accepts w.2
  /-- The files are the first ones until a snapshot is written. -/
  files : w.1.current = none → w.1.written = none → w.2 = o.2
  /-- Until then readers hold what is in the first files. -/
  held : ∀ {found}, .holding found ∈ w.1.readers → w.1.current = none → w.1.written = none →
    ∃ refused, allowed refused ∧ found = o.1.store.load refused o.2
  /-- And if the disk is no longer tried, a reader met an error there. -/
  tried : w.1.current = none → w.1.written = none → w.1.hasTried = true →
    o.1.hasTried = true ∨
      ∃ refused, allowed refused ∧ ∃ e, o.1.store.load refused o.2 = .error (.error e)
  /-- A disk that was not tried at first is not tried later. -/
  kept : o.1.hasTried = true → w.1.hasTried = true
  /-- The index that the service will have. -/
  outlook : (w.1.outlook w.2).Agree (asked.foldl (Action.onto o.1.rule) (o.1.base .none o.2))
  /-- A service that did what it was asked to do has a snapshot, unless there was nothing to start
  from. -/
  served : asked ≠ [] → w.1.queue.pending = none → w.1.queue.stage.job? = none →
    w.1.current = none → ∃ e, w.1.base .none w.2 = .error e

namespace Tracks

variable {allowed : Refusals → Prop} {o w : Service × FileTree} {s : Service} {files : FileTree}
  {asked : List Action}

theorem written_eq_none (h : Tracks allowed o asked (s, files)) (hjob : s.queue.stage.job? = none) :
    s.written = none := by
  cases hw : s.written with
  | none => rfl
  | some written =>
      obtain ⟨-, job, hjob', -⟩ := h.sound.written written hw
      rw [hjob] at hjob'
      cases hjob'

theorem load_eq (h : Tracks allowed o asked (s, files)) (hc : s.current = none)
    (hw : s.written = none) (refused : Refusals) :
    s.store.load refused files = o.1.store.load refused o.2 := by
  have hfiles : files = o.2 := h.files hc hw
  have hstore : s.store = o.1.store := h.store
  rw [hfiles, hstore]

theorem linked_atWork (h : Tracks allowed o asked (s, files)) : (s.atWork files).Linked := by
  rw [atWork]
  split
  next w hw => rintro x ⟨⟩; exact (h.sound.written w hw).1
  next => exact Found.Linked.after (fun x hx => h.sound.linked_base hx) _ _

/-! ### Callers and observers -/

theorem withQueue (h : Tracks allowed o asked (s, files)) {change : Queue → Queue}
    (hwork : s.queue.SameWork (change s.queue)) :
    Tracks allowed o asked (s.withQueue change, files) :=
  { h with
    sound := h.sound.withQueue hwork
    outlook := by
      have same : (s.withQueue change).outlook files = s.outlook files := by
        simp only [Service.outlook, atWork, Service.withQueue, hwork.pending, hwork.job]
        rfl
      rw [same]
      exact h.outlook
    served := fun hne hp hj => h.served hne (hwork.pending ▸ hp) (hwork.job ▸ hj) }

/-- One more request, which joins the one that waits. -/
theorem enqueue (h : Tracks allowed o asked (s, files)) {a : Action} (fresh : Request)
    {join : Request → Request} (hopen : s.queue.isShutDown = false) (hfresh : fresh.IsKeyed)
    (hjoin : ∀ {r : Request}, r.IsKeyed → (join r).IsKeyed)
    (hfreshOnto : ∀ {b : Found}, b.Linked → (fresh.onto s.rule b).Agree (a.onto s.rule b))
    (hjoinOnto : ∀ {b : Found} {r : Request}, b.Linked → r.IsKeyed →
      ((join r).onto s.rule b).Agree (a.onto s.rule (r.onto s.rule b))) :
    Tracks allowed o (asked ++ [a]) (s.withQueue fun q => q.enqueue fresh join, files) :=
  have pending : (s.withQueue fun q => q.enqueue fresh join).queue.pending =
      some (Queue.joined s.queue.pending fresh join s.queue.handles) := by
    rw [Service.withQueue, Queue.pending_enqueue, hopen]
    rfl
  have work : (s.withQueue fun q => q.enqueue fresh join).atWork files = s.atWork files := by
    simp only [atWork, Service.withQueue, Queue.stage_enqueue]
    rfl
  { h with
    sound := h.sound.enqueue fresh hfresh hjoin
    outlook := by
      -- the outlook is what waits laid onto what is at work, and only what waits has changed
      have step : ((s.withQueue fun q => q.enqueue fresh join).outlook files).Agree
          (a.onto s.rule (s.outlook files)) := by
        rw [Service.outlook, Service.outlook, work, pending]
        cases hp : s.queue.pending with
        | none => exact hfreshOnto h.linked_atWork
        | some job => exact hjoinOnto h.linked_atWork (h.sound.pending job hp)
      rw [List.foldl_append]
      refine step.trans ?_
      rw [h.rule]
      exact Action.onto_congr h.outlook _ a
    served := fun _ hp => by
      rw [pending] at hp
      cases hp }

theorem run (h : Tracks allowed o asked (s, files)) (hopen : s.queue.isShutDown = false)
    (ts : List Transcript) :
    Tracks allowed o (asked ++ [.run ts]) (s.withQueue fun q => q.run ts, files) :=
  h.enqueue (.full ts) hopen trivial (fun _ => trivial)
    (fun _ => ⟨Index.linked_build _ ts, Index.linked_build _ ts, .refl _⟩)
    (fun _ _ => ⟨Index.linked_build _ ts, Index.linked_build _ ts, .refl _⟩)

theorem update (h : Tracks allowed o asked (s, files)) (hopen : s.queue.isShutDown = false)
    {changed : List Transcript} (hvalid : ∀ t ∈ changed, Batch.isValid t = true) :
    Tracks allowed o (asked ++ [.update changed]) (s.withQueue fun q => q.update changed, files) :=
  h.enqueue _ hopen (Request.isKeyed_ofChanged changed) (fun hr => hr.fold changed)
    (fun hb => Request.onto_ofChanged hb _ hvalid)
    (fun hb hr => Request.onto_fold hb _ hr hvalid)

/-- After the shutdown a request changes nothing. -/
theorem refuse (h : Tracks allowed o asked (s, files)) (hclosed : s.queue.isShutDown = true)
    (fresh : Request) (join : Request → Request) :
    Tracks allowed o asked (s.withQueue fun q => q.enqueue fresh join, files) :=
  h.withQueue ⟨by rw [Queue.pending_enqueue, hclosed]; rfl, by rw [Queue.stage_enqueue],
    by rw [Queue.stage_enqueue]; exact id⟩

/-! ### Readers -/

/-- What is in the first files takes its place in memory. -/
theorem install (h : Tracks allowed o asked (s, files)) {x : Snapshot} (hx : x.index.Linked)
    (hload : s.current = none → s.written = none → o.1.store.load .none o.2 = .ok x) :
    Tracks allowed o asked ({ s with current := some (s.current.getD x) }, files) :=
  { h with
    sound := h.sound.install hx
    files := nofun
    held := fun _ => nofun
    tried := nofun
    outlook := by
      have work : ({ s with current := some (s.current.getD x) } : Service).atWork files =
          s.atWork files := by
        cases hw : s.written with
        -- a snapshot that is written already hides the current one
        | some w => simp only [atWork, hw]
        | none =>
            have base : ({ s with current := some (s.current.getD x) } : Service).base .none files =
                s.base .none files := by
              rw [base, base]
              cases hc : s.current with
              | some y => rfl
              | none =>
                  simp only [h.load_eq hc hw .none, hload hc hw]
                  rfl
            rw [atWork, atWork, hw]
            rw [hw] at base
            exact congrArg (Found.after · s.rule s.queue.stage.job?) base
      rw [Service.outlook, work]
      exact h.outlook
    served := nofun }

theorem withReaders (h : Tracks allowed o asked (s, files)) {readers : List Reader}
    (hlinked : ∀ {x}, Reader.holding (.ok x) ∈ readers → x.index.Linked)
    (hheld : ∀ {found}, .holding found ∈ readers → s.current = none → s.written = none →
      ∃ refused, allowed refused ∧ found = o.1.store.load refused o.2) :
    Tracks allowed o asked ({ s with readers := readers }, files) :=
  { h with
    sound := h.sound.withReaders hlinked
    held := hheld }

theorem setTried (h : Tracks allowed o asked (s, files))
    (htried : s.current = none → s.written = none →
      ∃ refused, allowed refused ∧ ∃ e, o.1.store.load refused o.2 = .error (.error e)) :
    Tracks allowed o asked ({ s with hasTried := true }, files) :=
  { h with
    sound := h.sound.tried
    tried := fun hc hw _ => .inr (htried hc hw)
    kept := fun _ => rfl }

theorem read (h : Tracks allowed o asked (s, files)) {refused : Refusals}
    (hallowed : allowed refused) : Tracks allowed o asked ((s.read refused files).1, files) := by
  rw [Service.read]
  split
  next => exact h
  next hc =>
    split
    next => exact h
    next =>
      split
      next x hload =>
        have := h.install (Store.linked_of_load hload) fun hc hw => by
          rw [← h.load_eq hc hw, Store.load_none_of_ok hload]
        rwa [hc] at this
      next e hload =>
        exact h.setTried fun hc hw => ⟨refused, hallowed, e, by rw [← h.load_eq hc hw, hload]⟩
      next => exact h

theorem look (h : Tracks allowed o asked (s, files)) : Tracks allowed o asked (s.look, files) := by
  rw [Service.look]
  split
  next =>
    refine h.withReaders (fun hx => ?_) fun hfound => ?_
    · rcases List.mem_append.1 hx with hx | hx
      · exact h.sound.readers hx
      · cases List.mem_singleton.1 hx
    · rcases List.mem_append.1 hfound with hfound | hfound
      · exact h.held hfound
      · cases List.mem_singleton.1 hfound
  next => exact h

theorem fetch (h : Tracks allowed o asked (s, files)) {refused : Refusals}
    (hallowed : allowed refused) (i : Nat) :
    Tracks allowed o asked (s.fetch refused files i, files) := by
  rw [Service.fetch]
  split
  next =>
    refine h.withReaders (fun hx => ?_) fun hfound hc hw => ?_
    · rcases List.mem_or_eq_of_mem_set hx with hx | hx
      · exact h.sound.readers hx
      · injection hx with hx
        exact Store.linked_of_load hx.symm
    · rcases List.mem_or_eq_of_mem_set hfound with hfound | hfound
      · exact h.held hfound hc hw
      · injection hfound with hfound
        exact ⟨refused, hallowed, hfound.trans (h.load_eq hc hw refused)⟩
  next => exact h

theorem settle (h : Tracks allowed o asked (s, files)) (i : Nat) :
    Tracks allowed o asked (s.settle i, files) := by
  have linked : ∀ {x}, Reader.holding (.ok x) ∈ s.readers.eraseIdx i → x.index.Linked :=
    fun hx => h.sound.readers (List.mem_of_mem_eraseIdx hx)
  rw [Service.settle]
  split
  next x hi =>
    have hmem := List.mem_of_getElem? hi
    have load : s.current = none → s.written = none → o.1.store.load .none o.2 = .ok x :=
      fun hc hw => by
        obtain ⟨refused, -, hfound⟩ := h.held hmem hc hw
        exact Store.load_none_of_ok hfound.symm
    exact (h.install (h.sound.readers hmem) load).withReaders linked fun _ hc _ => by cases hc
  next e hi =>
    have error : s.current = none → s.written = none →
        ∃ refused, allowed refused ∧ ∃ e, o.1.store.load refused o.2 = .error (.error e) :=
      fun hc hw => by
        obtain ⟨refused, hallowed, hfound⟩ := h.held (List.mem_of_getElem? hi) hc hw
        exact ⟨refused, hallowed, e, hfound.symm⟩
    refine (h.setTried error).withReaders (fun hx => ?_) fun hfound => ?_
    · rcases List.mem_or_eq_of_mem_set hx with hx | hx
      · exact h.sound.readers hx
      · cases hx
    · rcases List.mem_or_eq_of_mem_set hfound with hfound | hfound
      · exact h.held hfound
      · cases hfound
  next => exact h.withReaders linked fun hfound => h.held (List.mem_of_mem_eraseIdx hfound)
  next => exact h

theorem leave (h : Tracks allowed o asked (s, files)) (i : Nat) :
    Tracks allowed o asked (s.leave i, files) := by
  rw [Service.leave]
  split
  next =>
    exact h.withReaders (fun hx => h.sound.readers (List.mem_of_mem_eraseIdx hx))
      fun hfound => h.held (List.mem_of_mem_eraseIdx hfound)
  next => exact h

/-! ### The worker -/

theorem take (h : Tracks allowed o asked (s, files)) :
    Tracks allowed o asked (s.withQueue Queue.take, files) := by
  obtain hq | ⟨job, hstage, hpending, hq⟩ := s.queue.of_take
  · exact h.withQueue (by rw [hq]; exact .refl _)
  · have idle : s.queue.stage.job? = none := by rw [hstage]; rfl
    have sound := h.sound.take
    rw [Service.withQueue, hq] at sound ⊢
    refine { h with sound := sound, outlook := ?_, served := fun _ _ hjob => by cases hjob }
    -- what waited is now being built, on the same base
    have outlook := h.outlook
    simp only [Service.outlook, atWork, h.written_eq_none idle, hpending, idle] at outlook ⊢
    exact outlook

theorem eq_error_of_onto {rule : TermRule} {b : Found} {r : Request} {e : LoadFailure}
    (h : r.onto rule b = .error e) : b = .error e := by
  cases r with
  | full ts => cases h
  | incremental m => cases b <;> simp_all [Request.onto, Except.map]

theorem build (h : Tracks allowed o asked (s, files)) (now : Moment) :
    Tracks allowed o asked (s.build .none now files) := by
  have sound := h.sound.build .none now files
  obtain ⟨hb, -⟩ | ⟨job, hjob, hwritten, files', hb⟩ := s.of_build .none now files
  · rw [hb]
    exact h
  have work : s.atWork files = s.newIndex .none files job.request := by
    rw [atWork, hwritten, hjob, newIndex_eq_onto]
    rfl
  have outlook := h.outlook
  rw [Service.outlook, work] at outlook
  obtain ⟨x, hbuilt, hb⟩ | ⟨failure, hbuilt, hb⟩ := hb
  · -- the snapshot is written, and its index is the one that was at work
    obtain ⟨hindex, -, hsave⟩ := of_construct hbuilt
    rw [hb] at sound ⊢
    rw [hindex] at outlook
    refine { h with
      sound := sound, accepts := ?_, files := fun _ => nofun, held := fun _ _ => nofun,
      tried := fun _ => nofun, outlook := outlook, served := fun _ _ hj => ?_ }
    · rw [← h.store]
      exact Store.accepts_of_save hsave
    · rw [hjob] at hj
      cases hj
  · -- only the base can fail, and then there is none for the requests to come either
    obtain ⟨e, hnew, rfl⟩ : ∃ e, s.newIndex .none files job.request = .error e ∧
        files' = files := by
      cases hnew : s.newIndex .none files job.request with
      | error e => rw [construct_error hnew] at hbuilt; cases hbuilt; exact ⟨e, rfl, rfl⟩
      | ok y =>
          have saved := h.accepts ⟨y, now, s.store.fingerprint⟩
          rw [construct, hnew] at hbuilt
          simp only at hbuilt
          split at hbuilt
          next => cases hbuilt
          next hsave => rw [← h.store, hsave] at saved; cases saved
    have base : s.base .none files' = .error e := eq_error_of_onto (newIndex_eq_onto s _ _ _ ▸ hnew)
    rw [hnew] at outlook
    rw [hb] at sound ⊢
    refine { h with sound := sound, outlook := ?_, served := fun _ _ _ _ => ⟨e, base⟩ }
    have work' : ({ s with queue := s.queue.finish (.error failure) } : Service).atWork files' =
        .error e := by
      rw [atWork, hwritten, Queue.finish_of_job hjob]
      exact base
    rw [Service.outlook, work', Queue.pending_finish]
    exact outlook

theorem publish (h : Tracks allowed o asked (s, files)) :
    Tracks allowed o asked (s.publish, files) := by
  have sound := h.sound.publish
  cases hw : s.written with
  | none => rwa [publish_of_none hw]
  | some w =>
      obtain ⟨x, summary⟩ := w
      obtain ⟨-, job, hjob, -⟩ := h.sound.written _ hw
      have outlook := h.outlook
      rw [Service.outlook, atWork, hw] at outlook
      rw [publish_of_some hw hjob] at sound ⊢
      exact { h with
        sound := sound, files := nofun, held := fun _ => nofun, tried := nofun,
        kept := fun _ => rfl, outlook := outlook, served := fun _ _ _ => nofun }

/-! ### Runs -/

/-- **One action.**  What is accepted adds to what is asked, and the outlook follows. -/
theorem act (h : Tracks allowed o asked (s, files)) {a : Action} (hsmooth : a.IsSmooth)
    (hreads : a.ReadsUnder allowed) (hvalid : s.queue.isShutDown = false → a.IsValid) :
    Tracks allowed o (asked ++ accepted s.queue.isShutDown [a]) (Service.act (s, files) a) := by
  have nothing : ∀ {w}, a.asks = false → Tracks allowed o asked w →
      Tracks allowed o (asked ++ accepted s.queue.isShutDown [a]) w := fun ha hw => by
    rwa [accepted_of_asks_eq_false ha, List.append_nil]
  -- a queue that was shut down refuses every request, so nothing is added to what is asked
  have refused : ∀ {w}, s.queue.isShutDown = true → Tracks allowed o asked w →
      Tracks allowed o (asked ++ accepted s.queue.isShutDown [a]) w := fun hs hw => by
    rwa [hs, accepted, if_pos rfl, List.append_nil]
  cases a with
  | run ts =>
      cases hs : s.queue.isShutDown with
      | true => exact hs ▸ refused hs (h.refuse hs _ _)
      | false => exact h.run hs ts
  | update changed =>
      cases hs : s.queue.isShutDown with
      | true => exact hs ▸ refused hs (h.refuse hs _ _)
      | false => exact h.update hs (hvalid hs)
  | observe => exact nothing rfl (h.withQueue (Queue.sameWork_observe _))
  | read refused => exact nothing rfl (h.read hreads)
  | look => exact nothing rfl h.look
  | fetch refused i => exact nothing rfl (h.fetch hreads i)
  | settle i => exact nothing rfl (h.settle i)
  | leave i => exact nothing rfl (h.leave i)
  | shutDown => exact nothing rfl (h.withQueue (Queue.sameWork_shutDown _))
  | take => exact nothing rfl h.take
  | build refused now => obtain rfl := hsmooth; exact nothing rfl (h.build now)
  | publish => exact nothing rfl h.publish
  | collect => exact nothing rfl (h.withQueue (Queue.sameWork_collect _))
  | answer => exact nothing rfl (h.withQueue (Queue.sameWork_answer _))
  | notify => exact nothing rfl (h.withQueue (Queue.sameWork_notify _))
  | rest => exact nothing rfl (h.withQueue (Queue.sameWork_rest _))

theorem start (hs : s.Sound) (hrest : s.queue.isIdle = true) (hreaders : s.readers = [])
    (haccepts : s.store.Accepts files) : Tracks allowed (s, files) [] (s, files) := by
  rw [Queue.isIdle, Bool.and_eq_true, Stage.isIdle_iff, Option.isNone_iff_eq_none] at hrest
  have idle : s.queue.stage.job? = none := by rw [hrest.1]; rfl
  have unwritten : s.written = none := by
    cases hw : s.written with
    | none => rfl
    | some w =>
        obtain ⟨-, job, hjob, -⟩ := hs.written w hw
        rw [idle] at hjob
        cases hjob
  refine ⟨rfl, rfl, hs, haccepts, fun _ _ => rfl, ?_, fun _ _ => .inl, id, ?_,
    fun hne => absurd rfl hne⟩
  · rw [hreaders]
    exact fun hfound => absurd hfound List.not_mem_nil
  · rw [Service.outlook, atWork, unwritten, idle, hrest.2]
    exact Found.Linked.agree fun x hx => hs.linked_base hx

end Tracks

theorem isShutDown_read (s : Service) (refused : Refusals) (files : FileTree) :
    (s.read refused files).1.queue.isShutDown = s.queue.isShutDown := by
  rw [read]
  split
  · rfl
  · split
    · rfl
    · split <;> rfl

theorem isShutDown_build (s : Service) (refused : Refusals) (now : Moment) (files : FileTree) :
    (s.build refused now files).1.queue.isShutDown = s.queue.isShutDown := by
  obtain ⟨hb, -⟩ | ⟨job, -, -, files', ⟨x, -, hb⟩ | ⟨failure, -, hb⟩⟩ :=
    s.of_build refused now files
  · rw [hb]
  · rw [hb]
  · rw [hb]; exact Queue.isShutDown_finish ..

theorem isShutDown_publish (s : Service) : s.publish.queue.isShutDown = s.queue.isShutDown := by
  rw [publish]
  split
  · rfl
  · exact Queue.isShutDown_finish ..

/-- Only the shutdown shuts a service down. -/
theorem isShutDown_act (w : Service × FileTree) (a : Action) :
    (act w a).1.queue.isShutDown = (w.1.queue.isShutDown || a.closes) := by
  obtain ⟨s, files⟩ := w
  cases a with
  | shutDown => exact (Bool.or_true _).symm
  | run ts => exact (Queue.isShutDown_enqueue ..).trans (Bool.or_false _).symm
  | update changed => exact (Queue.isShutDown_enqueue ..).trans (Bool.or_false _).symm
  | observe => exact (Bool.or_false _).symm
  | read refused => exact (isShutDown_read s refused files).trans (Bool.or_false _).symm
  | look => refine Eq.trans ?_ (Bool.or_false _).symm; rw [act, look]; split <;> rfl
  | fetch refused i => refine Eq.trans ?_ (Bool.or_false _).symm; rw [act, fetch]; split <;> rfl
  | settle i => refine Eq.trans ?_ (Bool.or_false _).symm; rw [act, settle]; split <;> rfl
  | leave i => refine Eq.trans ?_ (Bool.or_false _).symm; rw [act, leave]; split <;> rfl
  | take => exact (Queue.isShutDown_take _).trans (Bool.or_false _).symm
  | build refused now => exact (isShutDown_build s refused now files).trans (Bool.or_false _).symm
  | publish => exact (isShutDown_publish s).trans (Bool.or_false _).symm
  | collect => exact (Queue.isShutDown_collect _).trans (Bool.or_false _).symm
  | answer => exact (Queue.isShutDown_answer _).trans (Bool.or_false _).symm
  | notify => exact (Queue.isShutDown_notify _).trans (Bool.or_false _).symm
  | rest => exact (Queue.isShutDown_rest _).trans (Bool.or_false _).symm

/-- A run adds the requests that are accepted in it. -/
theorem Tracks.perform {allowed : Refusals → Prop} {o w : Service × FileTree} {asked : List Action}
    {actions : List Action} (h : Tracks allowed o asked w) (hsmooth : ∀ a ∈ actions, a.IsSmooth)
    (hreads : ∀ a ∈ actions, a.ReadsUnder allowed)
    (hvalid : ∀ a ∈ accepted w.1.queue.isShutDown actions, a.IsValid) :
    Tracks allowed o (asked ++ accepted w.1.queue.isShutDown actions)
      (Service.perform w actions) := by
  induction actions generalizing w asked with
  | nil =>
      rw [accepted_nil, List.append_nil]
      exact h
  | cons a actions ih =>
      rw [accepted_cons, ← isShutDown_act, List.forall_mem_append] at hvalid
      rw [accepted_cons, ← isShutDown_act, ← List.append_assoc]
      rw [List.forall_mem_cons] at hsmooth hreads
      refine ih (h.act hsmooth.1 hreads.1 fun hs => ?_) hsmooth.2 hreads.2 hvalid.2
      cases a with
      | update changed => rw [hs] at hvalid; exact hvalid.1 _ List.mem_cons_self
      | _ => exact trivial

/-! ### One request after the other -/

/-- After a build and its publication nothing waits and nothing is being built. -/
theorem job?_after_publish {s : Service} (hwritten : s.written = none)
    (hpending : s.queue.pending = none) (refused : Refusals) (now : Moment) (files : FileTree) :
    (s.build refused now files).1.publish.queue.stage.job? = none ∧
      (s.build refused now files).1.publish.queue.pending = none := by
  obtain ⟨hb, hjob⟩ | ⟨job, hjob, -, files', ⟨x, -, hb⟩ | ⟨failure, -, hb⟩⟩ :=
    s.of_build refused now files
  · rw [hb, publish_of_none hwritten]
    exact ⟨hjob hwritten, hpending⟩
  · have hp := publish_of_some (s := { s with written := some (x, job.request.summary x) }) rfl hjob
    simp only [hb, hp]
    exact ⟨rfl, hpending⟩
  · have hp := publish_of_none (s := { s with queue := s.queue.finish (.error failure) }) hwritten
    simp only [hb, hp]
    exact ⟨by rw [Queue.finish_of_job hjob]; rfl, by rw [Queue.pending_finish, hpending]⟩

theorem isIdle_complete {s : Service} (hs : s.Sound) (hstage : s.queue.stage = .idle)
    (refused : Refusals) (now : Moment) (files : FileTree) :
    (complete refused now (s, files)).1.queue.isIdle = true := by
  have unwritten : (s.withQueue Queue.take).written = none := by
    cases hw : s.written with
    | none => exact hw
    | some w =>
        obtain ⟨-, job, hjob, -⟩ := hs.written w hw
        rw [hstage] at hjob
        cases hjob
  obtain ⟨hjob, hpending⟩ :=
    job?_after_publish unwritten (Queue.pending_take_of_idle hstage) refused now files
  exact Queue.isIdle_rest hjob hpending

theorem isShutDown_complete (refused : Refusals) (now : Moment) (w : Service × FileTree) :
    (complete refused now w).1.queue.isShutDown = w.1.queue.isShutDown := by
  have told : (complete refused now w).1.queue =
      (perform w [.take, .build refused now, .publish, .collect]).1.queue.deliver.rest := rfl
  rw [told, Queue.isShutDown_rest, Queue.isShutDown_deliver, perform, List.foldl_cons,
    List.foldl_cons, List.foldl_cons, List.foldl_cons, List.foldl_nil, isShutDown_act,
    isShutDown_act, isShutDown_act, isShutDown_act]
  simp only [Action.closes, Bool.or_false]

namespace Tracks

variable {allowed : Refusals → Prop} {o w w' : Service × FileTree} {asked : List Action}

theorem complete (h : Tracks allowed o asked w) (now : Moment) :
    Tracks allowed o asked (Service.complete .none now w) :=
  ((h.take.build now).publish.withQueue (Queue.sameWork_collect _)).withQueue
    ((Queue.sameWork_deliver _).trans (Queue.sameWork_rest _))

/-- Requests that are dealt with one by one. -/
theorem oneByOne (h : Tracks allowed o asked w) (hidle : w.1.queue.isIdle = true)
    (hopen : w.1.queue.isShutDown = false) {requests : List (Action × Moment)}
    (hasks : ∀ p ∈ requests, p.1.asks = true) (hvalid : ∀ p ∈ requests, p.1.IsValid) :
    Tracks allowed o (asked ++ requests.map Prod.fst) (Service.oneByOne w requests) ∧
      (Service.oneByOne w requests).1.queue.isIdle = true := by
  -- each request finds the service at rest, and `complete` brings it back to rest
  induction requests generalizing w asked with
  | nil => exact ⟨by rw [List.map_nil, List.append_nil]; exact h, hidle⟩
  | cons p requests ih =>
      obtain ⟨a, now⟩ := p
      rw [List.forall_mem_cons] at hasks hvalid
      obtain ⟨hstage, -⟩ := Bool.and_eq_true_iff.1 hidle
      rw [Stage.isIdle_iff] at hstage
      have one : Tracks allowed o (asked ++ [a]) (Service.act w a) ∧
          (Service.act w a).1.queue.stage = .idle ∧ a.closes = false := by
        cases a with
        | run ts => exact ⟨h.run hopen ts, by rw [← hstage]; exact Queue.stage_enqueue .., rfl⟩
        | update changed =>
            exact ⟨h.update hopen hvalid.1, by rw [← hstage]; exact Queue.stage_enqueue .., rfl⟩
        | _ => cases hasks.1
      obtain ⟨hone, hstage', hcloses⟩ := one
      have hopen' : (Service.complete .none now (Service.act w a)).1.queue.isShutDown = false := by
        rw [isShutDown_complete, isShutDown_act, hopen, hcloses]
        rfl
      have := ih (hone.complete now) (isIdle_complete hone.sound hstage' .none now _) hopen'
        hasks.2 hvalid.2
      rwa [List.append_assoc] at this

/-! ### The end -/

theorem outlook_of_isIdle (h : Tracks allowed o asked w) (hidle : w.1.queue.isIdle = true) :
    w.1.outlook w.2 = w.1.base .none w.2 := by
  rw [Queue.isIdle, Bool.and_eq_true, Stage.isIdle_iff, Option.isNone_iff_eq_none] at hidle
  have idle : w.1.queue.stage.job? = none := by rw [hidle.1]; rfl
  have unwritten : w.1.written = none := h.written_eq_none idle
  rw [Service.outlook, atWork, unwritten, idle, hidle.2]
  rfl

/-- What a service at rest has when there is a snapshot, and when there is none. -/
theorem base_of_isIdle (h : Tracks allowed o asked w) (hne : asked ≠ [])
    (hidle : w.1.queue.isIdle = true) :
    (∃ x, w.1.current = some x ∧ w.1.base .none w.2 = .ok x.index) ∨
      w.1.current = none ∧ w.1.written = none ∧ ∃ e, w.1.base .none w.2 = .error e := by
  rw [Queue.isIdle, Bool.and_eq_true, Stage.isIdle_iff, Option.isNone_iff_eq_none] at hidle
  have idle : w.1.queue.stage.job? = none := by rw [hidle.1]; rfl
  cases hc : w.1.current with
  | some x => exact .inl ⟨x, rfl, by rw [base, hc]⟩
  | none => exact .inr ⟨rfl, h.written_eq_none idle, h.served hne hidle.2 idle hc⟩

/-- What is read when there is no snapshot and none to be had from the disk, and no reader was
refused the file. -/
theorem read_of_none (h : Tracks allowed o asked w) (hreads : ∀ r, allowed r → r .read = false)
    (hc : w.1.current = none) (hw : w.1.written = none) {e : LoadFailure}
    (he : w.1.base .none w.2 = .error e) (refused : Refusals) :
    (w.1.read refused w.2).2 =
      match o.1.store.load refused o.2 with
      | .error (.breakdown fault) => if o.1.hasTried then .ok none else .error fault
      | _                         => .ok none := by
  have hload : ∀ r, w.1.store.load r w.2 = o.1.store.load r o.2 := h.load_eq hc hw
  rw [base, hc, hload] at he
  rw [Service.read, hc, hload]
  cases hl : o.1.store.load refused o.2 with
  | ok x => rw [Store.load_none_of_ok hl] at he; cases he
  | error failure => cases failure with
      | error cause => cases w.1.hasTried <;> rfl
      | breakdown fault =>
          -- an attempt is remembered when it ends in an error, and this one breaks down
          have same : w.1.hasTried = o.1.hasTried := by
            cases ht : w.1.hasTried with
            | false => exact (Bool.eq_false_iff.2 fun ho => by rw [h.kept ho] at ht; cases ht).symm
            | true =>
                obtain ho | ⟨r, hr, e, hcause⟩ := h.tried hc hw ht
                · exact ho.symm
                · rw [Store.load_of_reads (hreads r hr), Store.load_none_of_breakdown hl] at hcause
                  cases hcause
          rw [same]
          cases o.1.hasTried <;> rfl

/-- **The memories of two services at rest that did the same requests answer alike.** -/
theorem alikeInMemory (h : Tracks allowed o asked w) (h' : Tracks allowed o asked w')
    (hne : asked ≠ []) (hidle : w.1.queue.isIdle = true) (hidle' : w'.1.queue.isIdle = true) :
    AlikeInMemory w w' := by
  have agree := h.outlook.trans h'.outlook.symm
  rw [h.outlook_of_isIdle hidle, h'.outlook_of_isIdle hidle'] at agree
  rw [AlikeInMemory]
  -- an index and an error never agree, which settles the two mixed cases
  obtain ⟨x, hx, hbase⟩ | ⟨hc, -, e, hbase⟩ := h.base_of_isIdle hne hidle <;>
    obtain ⟨y, hy, hbase'⟩ | ⟨hc', -, e', hbase'⟩ := h'.base_of_isIdle hne hidle' <;>
    rw [hbase, hbase'] at agree
  · rw [hx, hy]
    exact .some agree.2.2.alike
  · exact agree.elim
  · exact agree.elim
  · rw [hc, hc']
    exact .none

/-- **So does what is read of them**, if no reader was refused the file. -/
theorem alike (h : Tracks allowed o asked w) (h' : Tracks allowed o asked w')
    (hreads : ∀ r, allowed r → r .read = false) (hne : asked ≠ [])
    (hidle : w.1.queue.isIdle = true) (hidle' : w'.1.queue.isIdle = true) : Alike w w' := by
  have memory := h.alikeInMemory h' hne hidle hidle'
  refine ⟨memory, fun refused => ?_⟩
  rw [AlikeInMemory] at memory
  obtain ⟨x, hx, -⟩ | ⟨hc, hw, e, hbase⟩ := h.base_of_isIdle hne hidle <;>
    obtain ⟨y, hy, -⟩ | ⟨hc', hw', e', hbase'⟩ := h'.base_of_isIdle hne hidle'
  · rw [hx, hy] at memory
    rw [Service.read, Service.read, hx, hy]
    exact memory
  · rw [hx, hc'] at memory
    cases memory
  · rw [hc, hy] at memory
    cases memory
  · rw [h.read_of_none hreads hc hw hbase, h'.read_of_none hreads hc' hw' hbase']
    cases o.1.store.load refused o.2 with
    | ok x => exact .none
    | error failure => cases failure with
        | error cause => exact .none
        | breakdown fault => cases o.1.hasTried with
            | false => exact rfl
            | true => exact .none

end Tracks

theorem asks_of_mem_accepted {isShutDown : Bool} {actions : List Action} {a : Action}
    (h : a ∈ accepted isShutDown actions) : a.asks = true := by
  rw [accepted] at h
  split at h
  · cases h
  · exact (List.mem_filter.1 h).2

/-- **The grouping of requests does not show.**  Take a reachable service at rest and files on which
no save fails, and any run of it, with as many requests, reads and observers as there are and with
the worker at any pace, in which the machine refuses nothing to a build.  When the service is at
rest again, its memory answers as that of the service to which the same requests were made one by
one; and so does whatever is read of it, if no reader was refused the file. -/
theorem perform_alike_oneByOne {store : Store} {rule : TermRule} {s : Service} {files : FileTree}
    {actions : List Action} {asked : List (Action × Moment)} (hs : Reachable store rule s)
    (hrest : s.queue.isIdle = true) (hreaders : s.readers = []) (haccepts : s.store.Accepts files)
    (hsmooth : ∀ a ∈ actions, a.IsSmooth)
    (hasked : asked.map Prod.fst = accepted s.queue.isShutDown actions)
    (hvalid : ∀ p ∈ asked, p.1.IsValid) (hne : asked ≠ [])
    (hidle : (perform (s, files) actions).1.queue.isIdle = true) :
    (oneByOne (s, files) asked).1.queue.isIdle = true ∧
      AlikeInMemory (perform (s, files) actions) (oneByOne (s, files) asked) ∧
      ((∀ a ∈ actions, a.ReadsFile) →
        Alike (perform (s, files) actions) (oneByOne (s, files) asked)) := by
  have hopen : s.queue.isShutDown = false := Bool.eq_false_iff.2 fun hclosed => by
    rw [hclosed] at hasked
    exact hne (List.map_eq_nil_iff.1 hasked)
  have asks : ∀ p ∈ asked, p.1.asks = true := fun p hp =>
    asks_of_mem_accepted (hasked ▸ List.mem_map_of_mem hp)
  have hne' : [] ++ asked.map Prod.fst ≠ [] := fun h => hne (List.map_eq_nil_iff.1 h)
  -- both runs track the same requests, whatever the readers of the first one are refused
  have tracked : ∀ {allowed : Refusals → Prop}, (∀ a ∈ actions, a.ReadsUnder allowed) →
      Tracks allowed (s, files) ([] ++ asked.map Prod.fst) (perform (s, files) actions) ∧
        Tracks allowed (s, files) ([] ++ asked.map Prod.fst) (oneByOne (s, files) asked) ∧
        (oneByOne (s, files) asked).1.queue.isIdle = true := fun {allowed} hreads => by
    have start : Tracks allowed (s, files) [] (s, files) :=
      .start (sound_of_reachable hs) hrest hreaders haccepts
    refine ⟨?_, start.oneByOne hrest hopen asks hvalid⟩
    rw [hasked]
    refine start.perform hsmooth hreads fun a ha => ?_
    rw [← hasked] at ha
    obtain ⟨p, hp, rfl⟩ := List.mem_map.1 ha
    exact hvalid p hp
  obtain ⟨run, reference, hidle'⟩ := tracked fun a _ => a.readsUnder_true
  refine ⟨hidle', run.alikeInMemory reference hne' hidle hidle', fun hreads => ?_⟩
  obtain ⟨run, reference, -⟩ := tracked hreads
  exact run.alike reference (fun _ => id) hne' hidle hidle'

/-- Two requests that are folded into one while a reader looks for a snapshot on the disk. -/
theorem folded_alike_oneByOne :
    Alike
      (perform
        (.start ⟨"i".toList, "f".toList⟩ (.ofMinLength 2), ⟨.ofList [(["i".toList], .directory)]⟩)
        [.run [⟨2020, 1, none, []⟩, ⟨2020, 1, none, [⟨"a line".toList, ⟨0⟩⟩]⟩], .look,
          .update [⟨2020, 2, none, []⟩, ⟨2020, 1, none, []⟩], .take, .fetch .none 0,
          .build .none (.atSecond 0), .publish, .collect, .settle 0, .answer, .answer, .rest])
      (oneByOne
        (.start ⟨"i".toList, "f".toList⟩ (.ofMinLength 2), ⟨.ofList [(["i".toList], .directory)]⟩)
        [(.run [⟨2020, 1, none, []⟩, ⟨2020, 1, none, [⟨"a line".toList, ⟨0⟩⟩]⟩], .atSecond 0),
          (.update [⟨2020, 2, none, []⟩, ⟨2020, 1, none, []⟩], .atSecond 1)]) := by
  have stands : Store.Stands ⟨"i".toList, "f".toList⟩ ⟨.ofList [(["i".toList], .directory)]⟩
      ["i".toList] :=
    ⟨by rfl, by rfl, by rfl, by rfl, by decide, by decide⟩
  refine (perform_alike_oneByOne .start rfl rfl stands.accepts ?_ rfl ?_ (by simp) ?_).2.2 ?_
  · simp [Action.IsSmooth]
  · simp [Action.IsValid, Batch.isValid]
  · decide
  · simp [Action.ReadsUnder, Refusals.none]

end Service

end TranscriptSearch
