import TranscriptSearch.Proofs.Service.Build
import TranscriptSearch.Proofs.Snapshot.Elsewhere

/-!
# Service — what is current, and what the file holds

While nobody else changes the files, what a service has in memory and what a load gives are told by
the snapshots that it made current.  The last of them is current, and the file holds it.  Before the
first one the service has what it found on the disk, if it found anything.  What one reader did not
find another one who was on the way may still find, if a build saves it in between, or if the
machine refused the file to the first one.

* `Service.publications`: the snapshots that some actions make current.
* `Service.answer?`: what one who asked for the current snapshot is told.
* `Service.Learns`, `Service.of_act`: all that readers and requests can do.
* `Service.Shows`: memory, readers and the file, told by what was made current last.
* `Service.Shows.act`, `Service.Shows.perform`: one action and any number of them.
* `Service.isSome_perform`, `Service.Barren.perform`: what is there stays, and what nobody can find
  any more is not found.
* `Service.absent_of_answer?`: with no reader refused, that there is nothing holds for all readers.
* `Service.current_of_perform`: all of this together.
* `Service.current_strays`: the conditions are needed.
-/

namespace TranscriptSearch

/-- A reader has been to the disk and comes back without a snapshot. -/
inductive Reader.IsEmptyHanded : Reader → Prop
  /-- It found an error, or its read broke down. -/
  | holding (failure : LoadFailure) : IsEmptyHanded (.holding (.error failure))
  /-- It found an error and has given the disk up. -/
  | leaving : IsEmptyHanded .leaving

namespace Service

/-! ### What is made current, and what is told -/

/-- The snapshot that an action makes current. -/
def publication? (s : Service) : Action → Option Snapshot
  | .publish => s.written.map Prod.fst
  | _        => none

/-- The snapshots that some actions make current, in order. -/
def publications (w : Service × FileTree) : List Action → List Snapshot
  | []        => []
  | a :: rest => (publication? w.1 a).toList ++ publications (act w a) rest

/-- What one who asked for the current snapshot is told at an action that ends a read. -/
def answer? (w : Service × FileTree) : Action → Option (Option Snapshot)
  | .read refused => (w.1.read refused w.2).2.toOption
  | .look => if w.1.current.isNone && !w.1.hasTried then none else some w.1.current
  | .settle i =>
    match w.1.readers[i]? with
    | some (.holding (.ok _)) => some (w.1.settle i).current
    | _                       => none
  | .leave i =>
    match w.1.readers[i]? with
    | some .leaving => some w.1.current
    | _             => none
  | _ => none

theorem current_of_read (s : Service) (refused : Refusals) (files : FileTree)
    {answer : Option Snapshot} :
    (s.read refused files).2 = .ok answer → (s.read refused files).1.current = answer := by
  rw [Service.read]
  split
  next hc => rintro ⟨⟩; exact hc
  next hc =>
    split
    next => rintro ⟨⟩; exact hc
    next =>
      split
      next => rintro ⟨⟩; rfl
      next => rintro ⟨⟩; exact hc
      next => intro h; cases h

/-- **One who asked is told what is current then.** -/
theorem current_of_answer? {w : Service × FileTree} {a : Action} {answer : Option Snapshot}
    (h : answer? w a = some answer) : (act w a).1.current = answer := by
  cases a with
  | read refused =>
      rw [answer?] at h
      refine current_of_read w.1 refused w.2 ?_
      cases hr : (w.1.read refused w.2).2 with
      | ok found => rw [hr] at h; exact congrArg _ (Option.some.inj h)
      | error fault => rw [hr] at h; cases h
  | look =>
      rw [answer?] at h
      split at h
      next => cases h
      next hc =>
        rw [act, Service.look, if_neg hc]
        exact Option.some.inj h
  | settle i =>
      rw [answer?] at h
      split at h
      next => exact Option.some.inj h
      next => cases h
  | leave i =>
      rw [answer?] at h
      split at h
      next hi =>
        rw [act, Service.leave, hi]
        exact Option.some.inj h
      next => cases h
  | _ => cases h

/-! ### What is learnt -/

/-- A reader holds this, or the disk gives it to one who meets refusals of some kind. -/
def Finds (allowed : Refusals → Prop) (s : Service) (files : FileTree)
    (found : Except LoadFailure Snapshot) : Prop :=
  Reader.holding found ∈ s.readers ∨ ∃ refused, allowed refused ∧ found = s.store.load refused files

/-- A service goes on with what it knows, and nothing else than what is found comes to it. -/
structure Learns (allowed : Refusals → Prop) (s : Service) (files : FileTree) (s' : Service) :
    Prop where
  /-- It has the same store. -/
  store : s'.store = s.store
  /-- The same snapshot waits. -/
  written : s'.written = s.written
  /-- What is current stays current. -/
  keeps : ∀ {x}, s.current = some x → s'.current = some x
  /-- What becomes current is found. -/
  current : ∀ {x}, s'.current = some x → s.current = some x ∨ s.Finds allowed files (.ok x)
  /-- What a reader comes to hold is found. -/
  readers : ∀ {found}, Reader.holding found ∈ s'.readers → s.Finds allowed files found
  /-- The disk is given up for good. -/
  tried : s.hasTried = true → s'.hasTried = true
  /-- It is given up when an error is found. -/
  given : s'.hasTried = true → s.hasTried = true ∨ ∃ e, s.Finds allowed files (.error (.error e))
  /-- Who found an error has given it up. -/
  leaving : Reader.leaving ∈ s'.readers → Reader.leaving ∈ s.readers ∨ s'.hasTried = true

variable {allowed : Refusals → Prop} {s : Service} {files : FileTree}

theorem Learns.refl (s : Service) (files : FileTree) : s.Learns allowed files s :=
  ⟨rfl, rfl, id, .inl, .inl, id, .inl, .inl⟩

theorem learns_withQueue (s : Service) (files : FileTree) (change : Queue → Queue) :
    s.Learns allowed files (s.withQueue change) :=
  ⟨rfl, rfl, id, .inl, .inl, id, .inl, .inl⟩

theorem learns_read (s : Service) (files : FileTree) {refused : Refusals}
    (hallowed : allowed refused) : s.Learns allowed files (s.read refused files).1 := by
  rw [Service.read]
  split
  next => exact .refl s files
  next hc =>
    split
    next => exact .refl s files
    next =>
      split
      next x hload =>
        refine ⟨rfl, rfl, fun h => ?_, fun h => .inr (.inr ⟨refused, hallowed, ?_⟩), .inl, id, .inl,
          .inl⟩
        · cases hc.symm.trans h
        · rw [hload, ← Option.some.inj h]
      next e hload =>
        exact ⟨rfl, rfl, id, .inl, .inl, fun _ => rfl,
          fun _ => .inr ⟨e, .inr ⟨refused, hallowed, hload.symm⟩⟩, .inl⟩
      next => exact .refl s files

theorem learns_look (s : Service) (files : FileTree) : s.Learns allowed files s.look := by
  rw [look]
  split
  next =>
    refine ⟨rfl, rfl, id, .inl, fun hf => ?_, id, .inl, fun hr => ?_⟩
    · obtain hf | hf := List.mem_append.1 hf
      · exact .inl hf
      · cases List.mem_singleton.1 hf
    · obtain hr | hr := List.mem_append.1 hr
      · exact .inl hr
      · cases List.mem_singleton.1 hr
  next => exact .refl s files

theorem learns_fetch (s : Service) (files : FileTree) {refused : Refusals}
    (hallowed : allowed refused) (i : Nat) : s.Learns allowed files (s.fetch refused files i) := by
  rw [fetch]
  split
  next =>
    refine ⟨rfl, rfl, id, .inl, fun hf => ?_, id, .inl, fun hr => ?_⟩
    · obtain hf | hf := List.mem_or_eq_of_mem_set hf
      · exact .inl hf
      · exact .inr ⟨refused, hallowed, Reader.holding.inj hf⟩
    · obtain hr | hr := List.mem_or_eq_of_mem_set hr
      · exact .inl hr
      · cases hr
  next => exact .refl s files

theorem learns_settle (s : Service) (files : FileTree) (i : Nat) :
    s.Learns allowed files (s.settle i) := by
  have left : ∀ {found}, Reader.holding found ∈ s.readers.eraseIdx i →
      s.Finds allowed files found := fun hf => .inl (List.mem_of_mem_eraseIdx hf)
  have leaving : Reader.leaving ∈ s.readers.eraseIdx i → Reader.leaving ∈ s.readers :=
    List.mem_of_mem_eraseIdx
  rw [settle]
  split
  next x hi =>
    refine ⟨rfl, rfl, fun h => ?_, fun h => ?_, left, id, .inl, fun hr => .inl (leaving hr)⟩
    · rw [h]
      rfl
    · cases hc : s.current with
      | some y => rw [hc] at h; exact .inl h
      | none => rw [hc] at h; exact .inr (.inl (Option.some.inj h ▸ List.mem_of_getElem? hi))
  next e hi =>
    refine ⟨rfl, rfl, id, .inl, fun hf => ?_, fun _ => rfl,
      fun _ => .inr ⟨e, .inl (List.mem_of_getElem? hi)⟩, fun _ => .inr rfl⟩
    obtain hf | hf := List.mem_or_eq_of_mem_set hf
    · exact .inl hf
    · cases hf
  next => exact ⟨rfl, rfl, id, .inl, left, id, .inl, fun hr => .inl (leaving hr)⟩
  next => exact .refl s files

theorem learns_leave (s : Service) (files : FileTree) (i : Nat) :
    s.Learns allowed files (s.leave i) := by
  rw [leave]
  split
  next =>
    exact ⟨rfl, rfl, id, .inl, fun hf => .inl (List.mem_of_mem_eraseIdx hf), id, .inl,
      fun hr => .inl (List.mem_of_mem_eraseIdx hr)⟩
  next => exact .refl s files

/-- **What an action does.**  It is a build or a publication, or the service learns something by it
and the files are as they were. -/
theorem of_act (w : Service × FileTree) {a : Action} (hreads : a.ReadsUnder allowed) :
    (∃ refused now, a = .build refused now) ∨ a = .publish ∨
      (w.1.Learns allowed w.2 (act w a).1 ∧ (act w a).2 = w.2 ∧ publication? w.1 a = none) := by
  cases a with
  | build refused now => exact .inl ⟨refused, now, rfl⟩
  | publish => exact .inr (.inl rfl)
  | read refused => exact .inr (.inr ⟨learns_read _ _ hreads, rfl, rfl⟩)
  | look => exact .inr (.inr ⟨learns_look .., rfl, rfl⟩)
  | fetch refused i => exact .inr (.inr ⟨learns_fetch _ _ hreads i, rfl, rfl⟩)
  | settle i => exact .inr (.inr ⟨learns_settle .., rfl, rfl⟩)
  | leave i => exact .inr (.inr ⟨learns_leave .., rfl, rfl⟩)
  | run ts => exact .inr (.inr ⟨learns_withQueue _ _ fun q => q.run ts, rfl, rfl⟩)
  | update changed => exact .inr (.inr ⟨learns_withQueue _ _ fun q => q.update changed, rfl, rfl⟩)
  | observe => exact .inr (.inr ⟨learns_withQueue _ _ Queue.observe, rfl, rfl⟩)
  | shutDown => exact .inr (.inr ⟨learns_withQueue _ _ Queue.shutDown, rfl, rfl⟩)
  | take => exact .inr (.inr ⟨learns_withQueue _ _ Queue.take, rfl, rfl⟩)
  | collect => exact .inr (.inr ⟨learns_withQueue _ _ Queue.collect, rfl, rfl⟩)
  | answer => exact .inr (.inr ⟨learns_withQueue _ _ Queue.answer, rfl, rfl⟩)
  | notify => exact .inr (.inr ⟨learns_withQueue _ _ Queue.notify, rfl, rfl⟩)
  | rest => exact .inr (.inr ⟨learns_withQueue _ _ Queue.rest, rfl, rfl⟩)

/-! ### Memory and file -/

/-- The snapshot that was saved last: the one that waits, or else the one made current last. -/
def saved (published : Option Snapshot) (s : Service) : Option Snapshot :=
  (s.written.map Prod.fst).or published

/-- A load gave this in the beginning to one who met refusals of some kind; or there is a snapshot
that waits, and it is what was found if anything was. -/
def OnDisk (allowed : Refusals → Prop) (store : Store) (files : FileTree) (s : Service)
    (found : Except LoadFailure Snapshot) : Prop :=
  (∃ refused, allowed refused ∧ found = store.load refused files) ∨
    ∃ w ∈ s.written, ∀ y, found = .ok y → store.ofOctets w.1.octets = .ok y

/-- A snapshot that was found is the one that a load gave in the beginning, or it is the one that
waits. -/
theorem OnDisk.load {store : Store} {y : Snapshot} (h : OnDisk allowed store files s (.ok y)) :
    store.load .none files = .ok y ∨ ∃ w ∈ s.written, store.ofOctets w.1.octets = .ok y := by
  obtain ⟨refused, -, hload⟩ | ⟨w, hw, hfound⟩ := h
  · exact .inl (Store.load_none_of_ok hload.symm)
  · exact .inr ⟨w, hw, hfound y rfl⟩

/-- What a service and the files are, told by the snapshot that was made current last, when readers
met refusals of some kind. -/
structure Shows (allowed : Refusals → Prop) (store : Store) (files : FileTree)
    (published : Option Snapshot) (w : Service × FileTree) : Prop where
  /-- The service is sound. -/
  sound : w.1.Sound
  /-- It has this store. -/
  store_eq : w.1.store = store
  /-- Everything stands in a directory. -/
  rooted : w.2.IsRooted
  /-- The path of the store's directory leads down. -/
  leadsDown : w.2.LeadsDown store.directory.components
  /-- What was saved is for the settings of the store. -/
  fingerprint : ∀ x ∈ saved published w.1, x.fingerprint = store.fingerprint
  /-- The file holds what was saved last, or else what it held in the beginning. -/
  file : w.2.read store.path =
    match saved published w.1 with
    | some x => .ok x.octets
    | none   => files.read store.path
  /-- What was made current last is current. -/
  current : ∀ {x}, published = some x → w.1.current = some x
  /-- Before that, what is current was found on the disk. -/
  found : published = none → ∀ {y}, w.1.current = some y → OnDisk allowed store files w.1 (.ok y)
  /-- So was what readers hold. -/
  readers : published = none → ∀ {found}, Reader.holding found ∈ w.1.readers →
    OnDisk allowed store files w.1 found
  /-- Before anything is saved, the disk is given up only when a reader met an error there. -/
  tried : published = none → w.1.written = none → w.1.hasTried = true →
    ∃ refused, allowed refused ∧ ∃ e, store.load refused files = .error (.error e)
  /-- A reader that found an error has given the disk up. -/
  leaving : Reader.leaving ∈ w.1.readers → w.1.hasTried = true

namespace Shows

variable {allowed : Refusals → Prop} {store : Store} {files : FileTree}
  {published : Option Snapshot} {w : Service × FileTree}

theorem start (rule : TermRule) (hrooted : files.IsRooted)
    (hdown : files.LeadsDown store.directory.components) :
    Shows allowed store files none (start store rule, files) where
  sound := sound_start store rule
  store_eq := rfl
  rooted := hrooted
  leadsDown := hdown
  fingerprint := nofun
  file := rfl
  current := nofun
  found _ := nofun
  readers _ := nofun
  tried _ _ := nofun
  leaving := nofun

/-- **What a load gives** is what was saved last, or else what it gave in the beginning. -/
theorem load (h : Shows allowed store files published w) :
    store.load .none w.2 =
      match saved published w.1 with
      | some x => store.ofOctets x.octets
      | none   => store.load .none files := by
  have file := h.file
  cases hs : Service.saved published w.1 with
  | none =>
      rw [hs] at file
      exact Store.load_eq_of_read_eq file
  | some x =>
      rw [hs] at file
      rw [Store.load_of_read file, Refusals.none, if_neg Bool.false_ne_true]

/-- Unless another snapshot waits, a load gives the one that was made current last. -/
theorem load_published (h : Shows allowed store files published w) {x : Snapshot}
    (hx : published = some x) (hw : w.1.written = none) (hstorable : x.index.Storable) :
    store.load .none w.2 = .ok x.truncated := by
  have last : Service.saved published w.1 = some x := by rw [Service.saved, hw, hx]; rfl
  rw [h.load, last]
  exact Store.ofOctets_octets (h.sound.current x (h.current hx)) hstorable (h.fingerprint x last)

/-- Before anything is saved, what is current is what a load gave in the beginning. -/
theorem load_found (h : Shows allowed store files none w) (hw : w.1.written = none) {y : Snapshot}
    (hy : w.1.current = some y) :
    store.load .none files = .ok y ∧ store.load .none w.2 = .ok y := by
  have load := h.load
  rw [Service.saved, hw] at load
  obtain hfound | ⟨e, he, -⟩ := (h.found rfl hy).load
  · exact ⟨hfound, load.trans hfound⟩
  · rw [hw] at he
    cases he

/-- Before anything was made current, what is current is what a load gave in the beginning or what
it gives now. -/
theorem load_found_or (h : Shows allowed store files none w) {y : Snapshot}
    (hy : w.1.current = some y) :
    store.load .none files = .ok y ∨ store.load .none w.2 = .ok y := by
  refine (h.found rfl hy).load.imp_right fun ⟨e, he, hfound⟩ => ?_
  have load := h.load
  rw [Service.saved, Option.mem_def.1 he] at load
  exact load.trans hfound

/-- What is found before anything was made current is on the disk. -/
theorem onDisk (h : Shows allowed store files none w) {found : Except LoadFailure Snapshot}
    (hf : w.1.Finds allowed w.2 found) : OnDisk allowed store files w.1 found := by
  obtain hf | ⟨refused, hallowed, rfl⟩ := hf
  · exact h.readers rfl hf
  · have load := h.load
    rw [Service.saved, Option.or_none] at load
    rw [h.store_eq]
    cases hw : w.1.written with
    | none =>
        replace load : store.load .none w.2 = store.load .none files := by rwa [hw] at load
        exact .inl ⟨refused, hallowed, by rw [store.load_eq, load, ← store.load_eq]⟩
    | some e =>
        replace load : store.load .none w.2 = store.ofOctets e.1.octets := by rwa [hw] at load
        exact .inr ⟨e, hw, fun y hy => load.symm.trans (Store.load_none_of_ok hy)⟩

/-! ### One action -/

theorem learns (h : Shows allowed store files published w) {s : Service} (hsound : s.Sound)
    (hs : w.1.Learns allowed w.2 s) : Shows allowed store files published (s, w.2) := by
  have same : Service.saved published s = Service.saved published w.1 := by
    rw [Service.saved, Service.saved, hs.written]
  have disk : published = none → ∀ {found}, w.1.Finds allowed w.2 found →
      OnDisk allowed store files s found := by
    rintro rfl found hf
    rw [OnDisk, hs.written]
    exact h.onDisk hf
  refine ⟨hsound, hs.store.trans h.store_eq, h.rooted, h.leadsDown, same ▸ h.fingerprint,
    same ▸ h.file, fun hp => hs.keeps (h.current hp), fun hp y hy => ?_,
    fun hp found hf => disk hp (hs.readers hf), fun hp hw ht => ?_,
    fun hr => (hs.leaving hr).elim (fun hr => hs.tried (h.leaving hr)) id⟩
  · obtain hy | hf := hs.current hy
    · rw [OnDisk, hs.written]
      exact h.found hp hy
    · exact disk hp hf
  · rw [hs.written] at hw
    obtain ht | ⟨e, hf⟩ := hs.given ht
    · exact h.tried hp hw ht
    · subst hp
      obtain ⟨refused, hallowed, he⟩ | ⟨x, hx, -⟩ := h.onDisk hf
      · exact ⟨refused, hallowed, e, he.symm⟩
      · rw [hw] at hx
        cases hx

/-- **A build** saves a snapshot for the settings of the store, or leaves the file alone. -/
theorem build (h : Shows allowed store files published w) (refused : Refusals) (now : Moment) :
    Shows allowed store files published (w.1.build refused now w.2) := by
  have hsound := h.sound.build refused now w.2
  obtain ⟨hb, -⟩ | ⟨job, -, hwritten, files', ⟨x, hbuilt, hb⟩ | ⟨failure, hbuilt, hb⟩⟩ :=
    w.1.of_build refused now w.2
  · rw [hb]
    exact h
  · obtain ⟨-, hx, hsave⟩ := of_construct hbuilt
    rw [h.store_eq] at hx hsave
    have after := Store.isRooted_of_save hsave h.rooted h.leadsDown
    rw [hb] at hsound ⊢
    -- what was on the disk is what was there in the beginning
    have disk : ∀ {found}, OnDisk allowed store files w.1 found →
        ∃ refused, allowed refused ∧ found = store.load refused files := by
      rintro found (hf | ⟨e, he, -⟩)
      · exact hf
      · rw [hwritten] at he
        cases he
    refine ⟨hsound, h.store_eq, after.1, after.2, ?_,
      Store.read_of_perform (Store.save_eq_none.1 hsave), h.current,
      fun hp y hy => .inl (disk (h.found hp hy)),
      fun hp found hf => .inl (disk (h.readers hp hf)), nofun, h.leaving⟩
    rintro _ ⟨⟩
    rw [hx]
  · rw [hb] at hsound ⊢
    obtain ⟨rfl, -⟩ | ⟨x, cause, -, hsave⟩ := of_construct_error hbuilt
    · exact ⟨hsound, h.store_eq, h.rooted, h.leadsDown, h.fingerprint, h.file, h.current, h.found,
        h.readers, h.tried, h.leaving⟩
    · rw [h.store_eq] at hsave
      have after := Store.isRooted_of_save hsave h.rooted h.leadsDown
      exact ⟨hsound, h.store_eq, after.1, after.2, h.fingerprint,
        (Store.read_of_save_error hsave h.rooted h.leadsDown).trans h.file, h.current, h.found,
        h.readers, h.tried, h.leaving⟩

theorem publish (h : Shows allowed store files published w) :
    Shows allowed store files ((w.1.written.map Prod.fst).or published) (w.1.publish, w.2) := by
  have hsound := h.sound.publish
  cases hw : w.1.written with
  | none =>
      rw [publish_of_none hw]
      exact h
  | some e =>
      have fingerprint := h.fingerprint
      have file := h.file
      rw [Service.saved, hw] at fingerprint file
      rw [Service.publish, hw] at hsound ⊢
      refine ⟨hsound, h.store_eq, h.rooted, h.leadsDown, fingerprint, file, id, ?_, ?_, ?_,
        fun _ => rfl⟩ <;> intro hp <;> cases hp

/-- **One action.** -/
theorem act (h : Shows allowed store files published w) {a : Action}
    (hreads : a.ReadsUnder allowed) :
    Shows allowed store files ((publication? w.1 a).or published) (act w a) := by
  have hsound := h.sound.act w.2 a
  obtain ⟨refused, now, rfl⟩ | rfl | ⟨hs, hfiles, hnone⟩ := of_act w hreads
  · exact h.build refused now
  · exact h.publish
  · rw [hnone, Option.none_or, show Service.act w a = ((Service.act w a).1, w.2) from
      Prod.ext rfl hfiles]
    exact h.learns hsound hs

/-- **Any number of actions.** -/
theorem perform (h : Shows allowed store files published w) {actions : List Action}
    (hreads : ∀ a ∈ actions, a.ReadsUnder allowed) :
    Shows allowed store files ((publications w actions).getLast?.or published)
      (perform w actions) := by
  induction actions generalizing published w with
  | nil => exact h
  | cons a actions ih =>
      rw [List.forall_mem_cons] at hreads
      have := ih (h.act hreads.1) hreads.2
      rw [publications, List.getLast?_append, Option.or_assoc]
      cases hp : publication? w.1 a <;> rw [hp] at this <;> exact this

/-- A disk with no snapshot to be had: there is none in memory before one is saved. -/
theorem current_eq_none (h : Shows allowed store files none w) (hw : w.1.written = none)
    (hload : ∀ x, store.load .none files ≠ .ok x) : w.1.current = none := by
  refine Option.eq_none_iff_forall_not_mem.2 fun y hy => ?_
  obtain hfound | ⟨x, hx, -⟩ := (h.found rfl hy).load
  · exact hload y hfound
  · rw [hw] at hx
    cases hx

/-- When no reader was refused the file, the disk is given up only if there is no snapshot on it. -/
theorem load_ne_ok (h : Shows (fun r => r .read = false) store files none w)
    (hw : w.1.written = none) (ht : w.1.hasTried = true) (x : Snapshot) :
    store.load .none files ≠ .ok x := by
  obtain ⟨refused, hreads, e, he⟩ := h.tried rfl hw ht
  rw [Store.load_of_reads hreads] at he
  rw [he]
  exact nofun

end Shows

/-! ### What stays -/

theorem keeps_build (refused : Refusals) (now : Moment) :
    (s.build refused now files).1.current = s.current ∧
      (s.build refused now files).1.hasTried = s.hasTried := by
  obtain ⟨hb, -⟩ | ⟨job, -, -, files', ⟨x, -, hb⟩ | ⟨failure, -, hb⟩⟩ :=
    s.of_build refused now files <;> rw [hb] <;> exact ⟨rfl, rfl⟩

/-- **What is there stays there**, whatever happens. -/
theorem isSome_act {w : Service × FileTree} (h : w.1.current.isSome) (a : Action) :
    (act w a).1.current.isSome := by
  obtain ⟨refused, now, rfl⟩ | rfl | ⟨hs, -⟩ := of_act w a.readsUnder_true
  · rw [act, (keeps_build refused now).1]
    exact h
  · rw [act, publish]
    split
    next => exact h
    next => rfl
  · obtain ⟨x, hx⟩ := Option.isSome_iff_exists.1 h
    rw [hs.keeps hx]
    rfl

theorem isSome_perform {w : Service × FileTree} (h : w.1.current.isSome) (actions : List Action) :
    (perform w actions).1.current.isSome := by
  induction actions generalizing w with
  | nil => exact h
  | cons a actions ih => exact ih (isSome_act h a)

theorem lifecycle_ne_empty (h : s.current.isSome) : s.lifecycle ≠ .empty := by
  rw [lifecycle, h]
  split <;> exact nofun

/-- Who was told that there is nothing has given up the disk. -/
theorem hasTried_of_answer? {w : Service × FileTree} {a : Action}
    (hleaving : Reader.leaving ∈ w.1.readers → w.1.hasTried = true)
    (h : answer? w a = some none) : (act w a).1.hasTried = true := by
  have absent := current_of_answer? h
  cases a with
  | read refused =>
      rw [act, Service.read] at absent ⊢
      rw [answer?, Service.read] at h
      revert h absent
      split
      next => intro h; cases h
      next =>
        split
        next ht => exact fun _ _ => ht
        next =>
          split
          next => intro h; cases h
          next => exact fun _ _ => rfl
          next => intro h; cases h
  | look =>
      rw [answer?] at h
      split at h
      next => cases h
      next hc =>
        rw [act, Service.look, if_neg hc]
        simpa [Option.some.inj h] using hc
  | settle i =>
      rw [answer?] at h
      split at h
      next x hi =>
        rw [act, Service.settle, hi] at absent
        cases absent
      next => cases h
  | leave i =>
      rw [answer?] at h
      split at h
      next hi =>
        rw [act, Service.leave, hi]
        exact hleaving (List.mem_of_getElem? hi)
      next => cases h
  | _ => cases h

/-- Nothing is in memory, nobody turns to the disk any more, and nobody comes back from it with a
snapshot. -/
structure Barren (s : Service) : Prop where
  /-- There is no snapshot. -/
  current : s.current = none
  /-- The disk is no longer tried. -/
  hasTried : s.hasTried = true
  /-- Whoever was on the way comes back without a snapshot. -/
  readers : ∀ r ∈ s.readers, r.IsEmptyHanded

namespace Barren

theorem settle (h : s.Barren) (i : Nat) : (s.settle i).Barren := by
  rw [Service.settle]
  split
  next x hi => cases h.readers _ (List.mem_of_getElem? hi)
  next =>
    refine ⟨h.current, rfl, fun r hr => ?_⟩
    obtain hr | rfl := List.mem_or_eq_of_mem_set hr
    · exact h.readers r hr
    · exact .leaving
  next => exact ⟨h.current, h.hasTried, fun r hr => h.readers r (List.mem_of_mem_eraseIdx hr)⟩
  next => exact h

theorem leave (h : s.Barren) (i : Nat) : (s.leave i).Barren := by
  rw [Service.leave]
  split
  next => exact ⟨h.current, h.hasTried, fun r hr => h.readers r (List.mem_of_mem_eraseIdx hr)⟩
  next => exact h

/-- **One action**, if it makes no snapshot current. -/
theorem act {w : Service × FileTree} (h : w.1.Barren) {a : Action}
    (ha : publication? w.1 a = none) : (act w a).1.Barren := by
  cases a with
  | read refused =>
      have same : (w.1.read refused w.2).1 = w.1 := by
        rw [Service.read, h.current, h.hasTried]
        rfl
      rw [Service.act, same]
      exact h
  | look =>
      rw [Service.act, look, h.hasTried]
      simpa using h
  | fetch refused i =>
      rw [Service.act, fetch]
      split
      next hi => cases h.readers _ (List.mem_of_getElem? hi)
      next => exact h
  | settle i => exact h.settle i
  | leave i => exact h.leave i
  | build refused now =>
      obtain ⟨hb, -⟩ | ⟨job, -, -, files', ⟨x, -, hb⟩ | ⟨failure, -, hb⟩⟩ :=
        w.1.of_build refused now w.2 <;>
      rw [Service.act, hb] <;> exact ⟨h.current, h.hasTried, h.readers⟩
  | publish =>
      have unwritten : w.1.written = none := Option.map_eq_none_iff.1 ha
      rw [Service.act, publish_of_none unwritten]
      exact h
  | run ts => exact ⟨h.current, h.hasTried, h.readers⟩
  | update changed => exact ⟨h.current, h.hasTried, h.readers⟩
  | observe => exact ⟨h.current, h.hasTried, h.readers⟩
  | shutDown => exact ⟨h.current, h.hasTried, h.readers⟩
  | take => exact ⟨h.current, h.hasTried, h.readers⟩
  | collect => exact ⟨h.current, h.hasTried, h.readers⟩
  | answer => exact ⟨h.current, h.hasTried, h.readers⟩
  | notify => exact ⟨h.current, h.hasTried, h.readers⟩
  | rest => exact ⟨h.current, h.hasTried, h.readers⟩

/-- **Any number of actions.** -/
theorem perform {w : Service × FileTree} (h : w.1.Barren) {actions : List Action}
    (hnone : publications w actions = []) : (perform w actions).1.Barren := by
  induction actions generalizing w with
  | nil => exact h
  | cons a actions ih =>
      rw [publications, List.append_eq_nil_iff, Option.toList_eq_nil_iff] at hnone
      exact ih (h.act hnone.1) hnone.2

end Barren

/-- Nothing is made current while nothing is saved. -/
theorem publications_eq_nil {w : Service × FileTree} {actions : List Action}
    (h : ∀ {before}, before <+: actions → (perform w before).1.written = none) :
    publications w actions = [] := by
  induction actions generalizing w with
  | nil => rfl
  | cons a actions ih =>
      have unwritten : w.1.written = none := h (List.nil_prefix (l := a :: actions))
      have unpublished : publication? w.1 a = none := by
        cases a <;> first | rfl | rw [publication?, unwritten, Option.map_none]
      rw [publications, unpublished]
      exact ih fun hb => h (List.cons_prefix_cons.2 ⟨rfl, hb⟩)

/-- **Once one was told that there is nothing**, there is nothing until a build saved a snapshot, if
no reader had been refused the file.  Who asks after that may be refused it. -/
theorem absent_of_answer? {store : Store} {published : Option Snapshot}
    {w : Service × FileTree} (h : Shows (fun _ => True) store files published w)
    (unrefused : Shows (fun refused => refused .read = false) store files published w)
    {a : Action} (hread : a.ReadsFile) (ha : answer? w a = some none) {more : List Action}
    (hmore : ∀ before, before <+: more → (perform (act w a) before).1.written = none) :
    (perform (act w a) more).1.current = none := by
  have told := h.act a.readsUnder_true
  have early := unrefused.act hread
  -- one was told that there is nothing, so nothing was made current, and the first load failed
  have unpublished : (publication? w.1 a).or published = none := by
    by_contra hne
    obtain ⟨x, hx⟩ := Option.ne_none_iff_exists'.1 hne
    cases (current_of_answer? ha).symm.trans (told.current hx)
  rw [unpublished] at told early
  have nothing := early.load_ne_ok (hmore [] List.nil_prefix) (hasTried_of_answer? h.leaving ha)
  have later := told.perform fun b (_ : b ∈ more) => b.readsUnder_true
  rw [publications_eq_nil fun {before} => hmore before] at later
  exact later.current_eq_none (hmore more List.prefix_rfl) nothing

/-! ### All of it -/

/-- What a service has in memory, what it tells, and what its file holds, when it began with some
files and then made some snapshots current. -/
structure Serves (store : Store) (files : FileTree) (unrefused : Prop) (published : List Snapshot)
    (w : Service × FileTree) : Prop where
  /-- The snapshot that was made current last is current. -/
  latest : ∀ x ∈ published.getLast?, w.1.current = some x
  /-- A load gives it, its moment truncated, unless another one waits. -/
  file : ∀ x ∈ published.getLast?, w.1.written = none → x.index.Storable →
    store.load .none w.2 = .ok x.truncated
  /-- Before the first one, what is current is what a load gave in the beginning and still gives. -/
  found : published = [] → w.1.written = none → ∀ y ∈ w.1.current,
    store.load .none files = .ok y ∧ store.load .none w.2 = .ok y
  /-- While the first one waits, it is what a load gave in the beginning or gives now. -/
  early : published = [] → w.1.written ≠ none → ∀ y ∈ w.1.current,
    store.load .none files = .ok y ∨ store.load .none w.2 = .ok y
  /-- One who asked is told what is current then. -/
  told : ∀ a, ∀ answer ∈ answer? w a, (act w a).1.current = answer
  /-- When there is something, there is something ever after. -/
  stays : w.1.current.isSome → ∀ more,
    (perform w more).1.current.isSome ∧ (perform w more).1.lifecycle ≠ .empty
  /-- When one was told that there is nothing, there is nothing until a snapshot is made current,
  unless somebody else was on the way to the disk, or from there with a snapshot. -/
  alone : ∀ a, answer? w a = some none →
    (∀ r ∈ (act w a).1.readers, r.IsEmptyHanded) →
    ∀ more, publications (act w a) more = [] → (perform (act w a) more).1.current = none
  /-- Whoever was on the way, there is nothing until a build saved a snapshot, if no reader had been
  refused the file. -/
  absent : unrefused → ∀ a, a.ReadsFile → answer? w a = some none →
    ∀ more, (∀ before, before <+: more → (perform (act w a) before).1.written = none) →
      (perform (act w a) more).1.current = none

/-- **What is current, and what the file holds.**  Whatever callers, readers and the worker do while
nobody else changes the files, and whatever the machine refuses them, the last snapshot that was
made current is current, and before the first one it is what was found on the disk.  The file holds
the same, except between the writing of a snapshot and its publication.  What is there stays there.
What was not found is not found until a build has made a snapshot current, but for somebody who was
on the way to the disk when another one was told so; and that one finds nothing either, unless a
build has saved a snapshot or some reader had been refused the file. -/
theorem current_of_perform (store : Store) (rule : TermRule) {files : FileTree}
    (hrooted : files.IsRooted) (hdown : files.LeadsDown store.directory.components)
    (actions : List Action) :
    Serves store files (∀ a ∈ actions, a.ReadsFile)
      (publications (start store rule, files) actions)
      (perform (start store rule, files) actions) := by
  have shows : ∀ {allowed : Refusals → Prop}, (∀ a ∈ actions, a.ReadsUnder allowed) →
      Shows allowed store files (publications (start store rule, files) actions).getLast?
        (perform (start store rule, files) actions) := fun hreads => by
    have := (Shows.start rule hrooted hdown).perform hreads
    rwa [Option.or_none] at this
  have unrefused : (∀ a ∈ actions, a.ReadsFile) → _ := shows
  replace shows := shows fun a _ => a.readsUnder_true
  generalize perform (start store rule, files) actions = w at shows unrefused ⊢
  generalize publications (start store rule, files) actions = published at shows unrefused ⊢
  refine
    { latest := fun x hx => shows.current hx
      file := fun x hx hw hstorable => shows.load_published hx hw hstorable
      found := ?found
      early := ?early
      told := fun a answer => current_of_answer?
      stays := fun h more => ?stays
      alone := fun a ha hreaders more hmore => ?alone
      absent := fun hreads a hread ha more hmore =>
        absent_of_answer? shows (unrefused hreads) hread ha hmore }
  case found =>
    rintro rfl hw y hy
    exact shows.load_found hw hy
  case early =>
    rintro rfl - y hy
    exact shows.load_found_or hy
  case stays =>
    have later := isSome_perform h more
    exact ⟨later, lifecycle_ne_empty later⟩
  case alone =>
    have barren : (act w a).1.Barren :=
      ⟨current_of_answer? ha, hasTried_of_answer? shows.leaving ha, hreaders⟩
    exact (barren.perform hmore).current

/-- What happens when one asks before the first build, and one session is indexed. -/
def first (timecode : Timecode) : List Action :=
  [.read .none, .run [oneLine timecode], .take, .build .none (.atSecond 0), .publish]

/-- A service after its first build. -/
def served (timecode : Timecode) : Service × FileTree :=
  perform (start ⟨"index".toList, []⟩ default, .empty) (first timecode)

/-- The file holds what is current, and there is something current ever after. -/
theorem served_current :
    ∃ x ∈ (served .zero).1.current,
      Store.load ⟨"index".toList, []⟩ .none (served .zero).2 = .ok x.truncated ∧
      ∀ more, (perform (served .zero) more).1.current.isSome := by
  have rooted : FileTree.empty.IsRooted := FileTree.isRooted_of_entries (by decide)
  have serves := current_of_perform ⟨"index".toList, []⟩ default rooted
    (FileTree.leadsDown_of_isStraight (by decide) .empty) (first .zero)
  have published : (publications (start ⟨"index".toList, []⟩ default, .empty)
      (first .zero)).getLast?.isSome := by decide
  have storable : ∀ x ∈ (publications (start ⟨"index".toList, []⟩ default, .empty)
      (first .zero)).getLast?, x.index.Storable := by decide
  have unwritten : (served .zero).1.written = none :=
    Option.isNone_iff_eq_none.1 (by decide)
  obtain ⟨x, hx⟩ := Option.isSome_iff_exists.1 published
  have current := serves.latest x hx
  exact ⟨x, current, serves.file x hx unwritten (storable x hx),
    fun more => (serves.stays (Option.isSome_of_mem current) more).1⟩

/-! ### The conditions -/

/-- A snapshot in one directory, with a directory in the way of its draft. -/
def crossing : FileTree where
  entries := .ofList [(["b".toList], .directory),
    (["b".toList, Store.fileName], .file (Snapshot.octets ⟨.empty default, .atSecond 0, []⟩)),
    (["b".toList, Store.draftName], .directory)]

/-- A reader is on its way to the disk.  Another one asks and is told that there is nothing; some
things happen, and no snapshot is made current; then the first one is told that there is one. -/
def Wavers (store : Store) (files : FileTree) (ask : Action) (meanwhile : List Action) : Prop :=
  let w := perform (start store default, files) [.look]
  answer? w ask = some none ∧ publications (act w ask) meanwhile = [] ∧
    (answer? (perform (act w ask) meanwhile) (.settle 0)).join.isSome

/-- A build, after which the reader looks at the disk. -/
def builtMeanwhile : List Action :=
  [.run [], .take, .build .none (.atSecond 0), .fetch .none 0]

/-- **The conditions are needed.**  A timecode may read back as its neighbour; a save that fails may
have made the directory that a path with two dots leads through; a reader may find a snapshot that
was saved and is not yet current, or one that the machine refused to another reader. -/
theorem current_strays :
    ((served ⟨0x3E8C016278560FF1⟩).1.written = none ∧
      ∃ x ∈ (served ⟨0x3E8C016278560FF1⟩).1.current, ∃ y,
        Store.load ⟨"index".toList, []⟩ .none (served ⟨0x3E8C016278560FF1⟩).2 = .ok y ∧
          y.index ≠ x.index) ∧
    Wavers ⟨"a/../b".toList, []⟩ crossing (.read .none) builtMeanwhile ∧
    Wavers ⟨"b".toList, []⟩ .empty (.read .none) builtMeanwhile ∧
    Wavers ⟨"b".toList, []⟩ crossing (.read fun step => step == .read) [.fetch .none 0] := by
  refine ⟨⟨Option.isNone_iff_eq_none.1 (by decide), ?_⟩, ⟨?_, ?_, ?_⟩, ⟨?_, ?_, ?_⟩,
    ⟨?_, ?_, ?_⟩⟩
  · have current : (served ⟨0x3E8C016278560FF1⟩).1.current.isSome := by decide
    have loads : (Store.load ⟨"index".toList, []⟩ .none
        (served ⟨0x3E8C016278560FF1⟩).2).toOption.isSome := by decide +kernel
    have unlike : ∀ x ∈ (served ⟨0x3E8C016278560FF1⟩).1.current,
        ∀ y ∈ (Store.load ⟨"index".toList, []⟩ .none (served ⟨0x3E8C016278560FF1⟩).2).toOption,
          y.index ≠ x.index := by decide +kernel
    obtain ⟨x, hx⟩ := Option.isSome_iff_exists.1 current
    cases hload : Store.load ⟨"index".toList, []⟩ .none (served ⟨0x3E8C016278560FF1⟩).2 with
    | ok y => exact ⟨x, hx, y, rfl, unlike x hx y (by rw [hload]; rfl)⟩
    | error e => rw [hload] at loads; cases loads
  · decide
  · decide
  · decide
  · decide
  · decide
  · decide
  · decide
  · decide
  · decide

end Service

end TranscriptSearch
