import TranscriptSearch.Service.Basic
import TranscriptSearch.Proofs.Index.Postings

/-!
# Service — a folded request is two builds in one

A request that waits takes in the changed transcripts of a later one.  Whether the waiting
request is for all transcripts, whose list may hold a key more than once, or for changed ones, of
which a map holds each key once: what counts is the last copy of each key, and the fold brings
exactly these.

* `Request.Puts`: the two ways in which a changed transcript gets into a list.
* `Request.latest`: the last copies that a request brings; `Request.latest_fold`,
  `Request.last?_fold`: those of a folded request.
* `Request.fold_fold`: two batches that are folded in are one.
* `Request.onto`: what a request makes of an index, or of the failure to get one.
* `Found.Agree`: two indexes agree, or they failed alike.
* `Request.onto_fold`: a folded request makes the same of an index as its two parts in turn.
-/

namespace TranscriptSearch

open Batch

/-- The last copies of a batch, by their keys. -/
def Batch.byKey (batch : List Transcript) : SortedMap SessionKey Transcript :=
  .ofList ((lastCopies batch).map fun t => (t.key, t))

theorem Batch.get?_byKey (batch : List Transcript) (k : SessionKey) :
    (byKey batch).get? k = last? k batch := by
  rw [byKey, SortedMap.get?_ofList, ← List.map_reverse, List.find?_map, Option.map_map,
    ← last?_lastCopies]
  exact Option.map_id'

namespace Request

/-! ### Last copies -/

theorem replaceLast?_eq_none_iff {t : Transcript} {ts : List Transcript} :
    replaceLast? t ts = none ↔ lacks t.key ts = true := by
  induction ts with
  | nil => simp [replaceLast?, lacks]
  | cons u rest ih =>
      rw [replaceLast?]
      cases h : replaceLast? t rest with
      | some rest' =>
          have : lacks t.key rest ≠ true := fun e => by rw [ih.2 e] at h; cases h
          simp only [lacks, List.all_cons, Bool.and_eq_true, reduceCtorEq, false_iff]
          exact fun e => this e.2
      | none =>
          have : lacks t.key rest = true := ih.1 h
          rw [lacks] at this
          by_cases hu : u.key = t.key <;> simp [lacks, hu, this]

/-- What is replaced is the last transcript with the key, and nothing else. -/
theorem of_replaceLast? {t : Transcript} {ts us : List Transcript}
    (h : replaceLast? t ts = some us) :
    ∃ before u after, ts = before ++ u :: after ∧ u.key = t.key ∧ lacks t.key after = true ∧
      us = before ++ t :: after := by
  induction ts generalizing us with
  | nil => cases h
  | cons u rest ih =>
      rw [replaceLast?] at h
      cases hr : replaceLast? t rest with
      | some rest' =>
          rw [hr] at h
          cases h
          obtain ⟨before, v, after, rfl, hv, hafter, rfl⟩ := ih hr
          exact ⟨u :: before, v, after, rfl, hv, hafter, rfl⟩
      | none =>
          rw [hr] at h
          obtain ⟨hu, rfl⟩ : u.key = t.key ∧ t :: rest = us := by simpa using h
          exact ⟨[], u, rest, rfl, hu, replaceLast?_eq_none_iff.1 hr, rfl⟩

/-- The two ways in which a transcript is put among others. -/
inductive Puts (t : Transcript) : List Transcript → List Transcript → Prop where
  /-- It takes the place of the last one with its key. -/
  | replaces {before after : List Transcript} {u : Transcript} (hkey : u.key = t.key)
      (hafter : lacks t.key after = true) : Puts t (before ++ u :: after) (before ++ t :: after)
  /-- It comes at the end, if there is none with its key. -/
  | appends {ts : List Transcript} (hnew : lacks t.key ts = true) : Puts t ts (ts ++ [t])

theorem puts_put (ts : List Transcript) (t : Transcript) : Puts t ts (put ts t) := by
  rw [put]
  cases h : replaceLast? t ts with
  | some us =>
      obtain ⟨before, u, after, rfl, hkey, hafter, rfl⟩ := of_replaceLast? h
      exact .replaces hkey hafter
  | none => exact .appends (replaceLast?_eq_none_iff.1 h)

theorem Puts.last?_eq {t : Transcript} {ts us : List Transcript} (h : Puts t ts us)
    (k : SessionKey) : last? k us = if t.key = k then some t else last? k ts := by
  cases h with
  | @replaces before after u hkey hafter =>
      rw [last?_append, last?_append, last?_cons, last?_cons, hkey]
      by_cases hk : t.key = k
      · have gone : last? k after = none := last?_eq_none_iff.2 (hk ▸ hafter)
        rw [if_pos hk, if_pos hk, gone, Option.none_or, Option.some_or]
      · rw [if_neg hk, if_neg hk, if_neg hk]
  | appends hnew =>
      rw [last?_append, last?_singleton]
      by_cases hk : t.key = k
      · rw [if_pos hk, if_pos hk, Option.some_or]
      · rw [if_neg hk, if_neg hk, Option.none_or]

theorem last?_foldl_put (ts changed : List Transcript) (k : SessionKey) :
    last? k (changed.foldl put ts) = (last? k changed).or (last? k ts) := by
  induction changed generalizing ts with
  | nil => rfl
  | cons t changed ih =>
      rw [List.foldl_cons, ih, (puts_put ts t).last?_eq, last?_cons, Option.or_assoc]
      by_cases h : t.key = k
      · rw [if_pos h, if_pos h, Option.some_or]
      · rw [if_neg h, if_neg h, Option.none_or]

/-- Every transcript stands under its own key. -/
def Keyed (m : SortedMap SessionKey Transcript) : Prop :=
  ∀ {k t}, m.get? k = some t → t.key = k

theorem keyed_empty : Keyed .empty := fun h => by cases h

theorem get?_change (m : SortedMap SessionKey Transcript) (t : Transcript) (k : SessionKey) :
    (change m t).get? k = if t.key = k then some t else m.get? k := by
  rw [change, SortedMap.get?_insert]
  by_cases h : t.key = k
  · rw [if_pos h, if_pos h.symm]
  · rw [if_neg h, if_neg (Ne.symm h)]

theorem Keyed.change {m : SortedMap SessionKey Transcript} (h : Keyed m) (t : Transcript) :
    Keyed (Request.change m t) := fun {k u} hu => by
  rw [get?_change] at hu
  split at hu
  next hk => cases hu; exact hk
  next => exact h hu

theorem Keyed.foldl_change {m : SortedMap SessionKey Transcript} (h : Keyed m)
    (changed : List Transcript) : Keyed (changed.foldl Request.change m) := by
  induction changed generalizing m with
  | nil => exact h
  | cons t changed ih => exact ih (h.change t)

theorem get?_foldl_change (m : SortedMap SessionKey Transcript) (changed : List Transcript)
    (k : SessionKey) :
    (changed.foldl change m).get? k = (last? k changed).or (m.get? k) := by
  induction changed generalizing m with
  | nil => rfl
  | cons t changed ih =>
      rw [List.foldl_cons, ih, get?_change, last?_cons, Option.or_assoc]
      by_cases h : t.key = k
      · rw [if_pos h, if_pos h, Option.some_or]
      · rw [if_neg h, if_neg h, Option.none_or]

/-- The values of a map have one copy of each key. -/
theorem Keyed.last?_values {m : SortedMap SessionKey Transcript} (h : Keyed m) (k : SessionKey) :
    last? k m.values = m.get? k := by
  have key : ∀ {t}, t ∈ m.values → m.get? t.key = some t := fun {t} ht => by
    obtain ⟨⟨k', t'⟩, hp, rfl⟩ := List.mem_map.1 ht
    have hget := (SortedMap.get?_eq_some_iff m k' t').2 hp
    rwa [← h hget] at hget
  cases hl : last? k m.values with
  | some t => rw [← key (mem_of_last? hl), key_of_last? hl]
  | none =>
      cases hm : m.get? k with
      | none => rfl
      | some t =>
          have ht : t ∈ m.values :=
            List.mem_map.2 ⟨(k, t), (SortedMap.get?_eq_some_iff m k t).1 hm, rfl⟩
          have hlacks := last?_eq_none_iff.1 hl
          rw [lacks, List.all_eq_true] at hlacks
          exact absurd (h hm) (by simpa using hlacks t ht)

/-- Every transcript of a request stands under its own key. -/
def IsKeyed : Request → Prop
  | .full _        => True
  | .incremental m => Keyed m

theorem IsKeyed.fold {r : Request} (h : r.IsKeyed) (changed : List Transcript) :
    (r.fold changed).IsKeyed := by
  cases r with
  | full ts => exact trivial
  | incremental m => exact Keyed.foldl_change h changed

theorem isKeyed_ofChanged (changed : List Transcript) : (ofChanged changed).IsKeyed :=
  IsKeyed.fold (r := .incremental .empty) keyed_empty changed

/-! ### Folds -/

theorem fold_nil (r : Request) : r.fold [] = r := by
  cases r <;> rfl

/-- A batch that is folded in after another one. -/
theorem fold_fold (r : Request) (a b : List Transcript) : (r.fold a).fold b = r.fold (a ++ b) := by
  cases r with
  | full ts => rw [fold, fold, fold, List.foldl_append]
  | incremental m => rw [fold, fold, fold, List.foldl_append]

/-- The last copies that a request brings, by their keys. -/
def latest : Request → SortedMap SessionKey Transcript
  | .full ts       => byKey ts
  | .incremental m => m

/-- They are those of the transcripts that a build of the request works on. -/
theorem IsKeyed.byKey_batch {r : Request} (h : r.IsKeyed) : byKey r.batch = r.latest := by
  cases r with
  | full ts => rfl
  | incremental m =>
      refine SortedMap.ext_get? fun k => ?_
      rw [get?_byKey, batch, latest, Keyed.last?_values h]

/-- **A fold lays the changed transcripts over those that wait.** -/
theorem latest_fold (r : Request) (changed : List Transcript) :
    (r.fold changed).latest = r.latest.overlay (byKey changed) := by
  refine SortedMap.ext_get? fun k => ?_
  rw [SortedMap.get?_overlay, get?_byKey]
  cases r with
  | full ts => rw [fold, latest, latest, get?_byKey, get?_byKey, last?_foldl_put]
  | incremental m => rw [fold, latest, latest, get?_foldl_change]

/-- **A fold brings the last copies.**  They are those of the changed transcripts, and for other
keys those that waited. -/
theorem last?_fold {r : Request} (h : r.IsKeyed) (changed : List Transcript) (k : SessionKey) :
    last? k (r.fold changed).batch = (last? k changed).or (last? k r.batch) := by
  rw [← get?_byKey, (h.fold changed).byKey_batch, latest_fold, SortedMap.get?_overlay, get?_byKey,
    ← h.byKey_batch, get?_byKey]

/-- A request for changed transcripts brings their last copies. -/
theorem last?_ofChanged (changed : List Transcript) (k : SessionKey) :
    last? k (ofChanged changed).batch = last? k changed :=
  (last?_fold (r := .incremental .empty) keyed_empty changed k).trans (Option.or_none ..)

end Request

/-! ### Building -/

/-- An index, or why there is none. -/
abbrev Found := Except LoadFailure Index

/-- Two indexes hold the same of every session, or there is none for the same reason. -/
def Found.Agree : Found → Found → Prop
  | .ok x, .ok y => x.Linked ∧ y.Linked ∧ x.Agrees y
  | .error e, .error f => e = f
  | _, _ => False

/-- A found index is linked. -/
def Found.Linked (b : Found) : Prop := ∀ x, b = .ok x → x.Linked

namespace Found

variable {a b c : Found}

theorem Linked.agree (h : b.Linked) : b.Agree b := by
  cases b with
  | error e => exact rfl
  | ok x => exact ⟨h x rfl, h x rfl, .refl x⟩

theorem Agree.linked (h : a.Agree b) : a.Linked := by
  rintro x rfl
  cases b with
  | error e => exact h.elim
  | ok y => exact h.1

theorem Agree.symm (h : a.Agree b) : b.Agree a := by
  cases a with
  | error e => cases b with
      | error f => exact h.symm
      | ok y => exact h.elim
  | ok x => cases b with
      | error f => exact h.elim
      | ok y => exact ⟨h.2.1, h.1, h.2.2.symm⟩

theorem Agree.trans (h : a.Agree b) (h' : b.Agree c) : a.Agree c := by
  cases a with
  | error e => cases b with
      | error f => cases c with
          | error g => exact Eq.trans h h'
          | ok z => exact h'.elim
      | ok y => exact h.elim
  | ok x => cases b with
      | error f => exact h.elim
      | ok y => cases c with
          | error g => exact h'.elim
          | ok z => exact ⟨h.1, h'.2.1, h.2.2.trans h'.2.2⟩

theorem Agree.map_merge (h : a.Agree b) (batch : List Transcript) :
    Found.Agree (a.map (·.merge batch)) (b.map (·.merge batch)) := by
  cases a with
  | error e => cases b with
      | error f => exact h
      | ok y => exact h.elim
  | ok x => cases b with
      | error f => exact h.elim
      | ok y => exact ⟨h.1.merge batch, h.2.1.merge batch, h.2.2.merge h.1 h.2.1 batch⟩

/-- A valid batch that is merged later could have been folded in. -/
theorem Linked.agree_map_merge (h : b.Linked) {first later joint : List Transcript}
    (hlater : ∀ t ∈ later, isValid t = true)
    (hjoint : ∀ k, last? k joint = (last? k later).or (last? k first)) :
    Found.Agree (b.map (·.merge joint)) ((b.map (·.merge first)).map (·.merge later)) := by
  cases b with
  | error e => exact rfl
  | ok x =>
      have hx := h x rfl
      exact ⟨hx.merge joint, (hx.merge first).merge later, hx.merge_merge hlater hjoint⟩

end Found

namespace Request

/-- What a request makes of an index. -/
def onto (rule : TermRule) (b : Found) : Request → Found
  | .full ts       => .ok (.build rule ts)
  | .incremental m => b.map fun x => x.merge m.values

/-- What a request starts from: nothing, or an index. -/
def ground (rule : TermRule) (b : Found) : Request → Found
  | .full _        => .ok (.empty rule)
  | .incremental _ => b

theorem onto_eq (rule : TermRule) (b : Found) (r : Request) :
    r.onto rule b = (r.ground rule b).map (·.merge r.batch) := by
  cases r <;> rfl

theorem ground_fold (rule : TermRule) (b : Found) (r : Request) (changed : List Transcript) :
    (r.fold changed).ground rule b = r.ground rule b := by
  cases r <;> rfl

theorem linked_ground {b : Found} (h : b.Linked) (rule : TermRule) (r : Request) :
    (r.ground rule b).Linked := by
  cases r with
  | full ts => rintro x ⟨⟩; exact Index.linked_empty rule
  | incremental m => exact h

/-- What a request makes of indexes that agree. -/
theorem onto_congr {a b : Found} (h : a.Agree b) (rule : TermRule) (r : Request) :
    (r.onto rule a).Agree (r.onto rule b) := by
  cases r with
  | full ts => exact ⟨Index.linked_build rule ts, Index.linked_build rule ts, .refl _⟩
  | incremental m => exact h.map_merge m.values

/-- **A folded request is its two parts in turn.** -/
theorem onto_fold {b : Found} (hb : b.Linked) (rule : TermRule) {r : Request} (hr : r.IsKeyed)
    {changed : List Transcript} (hchanged : ∀ t ∈ changed, isValid t = true) :
    Found.Agree ((r.fold changed).onto rule b) ((r.onto rule b).map (·.merge changed)) := by
  rw [onto_eq, onto_eq, ground_fold]
  exact (linked_ground hb rule r).agree_map_merge hchanged (last?_fold hr changed)

/-- A request of changed transcripts merges them. -/
theorem onto_ofChanged {b : Found} (hb : b.Linked) (rule : TermRule) {changed : List Transcript}
    (hchanged : ∀ t ∈ changed, isValid t = true) :
    Found.Agree ((ofChanged changed).onto rule b) (b.map (·.merge changed)) := by
  have h := onto_fold hb rule (r := .incremental .empty) keyed_empty hchanged
  cases b <;> exact h

end Request

/-- What a build makes of a request. -/
theorem Service.newIndex_eq_onto (s : Service) (refused : Refusals) (files : FileTree)
    (r : Request) :
    s.newIndex refused files r = r.onto s.rule (s.base refused files) := by
  cases r <;> rfl

end TranscriptSearch
