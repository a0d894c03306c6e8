import TranscriptSearch.Proofs.Service.Request

/-!
# Service — a fold moves nothing

A list of all transcripts that waits may hold a key more than once, and so may the changed
transcripts that are folded into it.  One after the other they take the place of the last copy of
their key.  So every place keeps its key, a copy that was overridden already stays as it is, and new
keys come at the end in the order in which they first appear.

* `Request.newKeys`: the keys that a list does not have, in the order of their first appearance.
* `Request.KeepsPlaces`: what a list with changed transcripts in it keeps of the list before.
* `Puts.keepsPlaces`, `KeepsPlaces.trans`, `keepsPlaces_foldl_put`: one transcript, two batches in
  turn, a whole batch.
* `Request.fold_overlays`: what a fold makes of any request.
-/

namespace TranscriptSearch

open Batch

theorem Batch.lacks_iff_not_mem (batch : List Transcript) (k : SessionKey) :
    lacks k batch = true ↔ k ∉ batch.map Transcript.key := by
  rw [Index.Log.lacks_iff, List.mem_map]

namespace Request

variable {ts us vs a b changed : List Transcript} {t : Transcript}

/-! ### New keys -/

/-- The keys of changed transcripts that a list does not have, in the order of their first
appearance. -/
def newKeys (ts changed : List Transcript) : List SessionKey :=
  ((changed.map Transcript.key).filter fun k => lacks k ts).eraseDups

theorem newKeys_of_lacks (h : lacks t.key ts = true) : newKeys ts [t] = [t.key] := by
  rw [newKeys, List.map_singleton, List.filter_singleton, h]
  rfl

theorem newKeys_of_not_lacks (h : lacks t.key ts = false) : newKeys ts [t] = [] := by
  rw [newKeys, List.map_singleton, List.filter_singleton, h]
  rfl

/-- With the new keys of a batch at its end a list lacks what it and the batch lacked. -/
theorem lacks_iff_of_keys (h : us.map Transcript.key = ts.map Transcript.key ++ newKeys ts a)
    {k : SessionKey} : lacks k us = true ↔ lacks k a = true ∧ lacks k ts = true := by
  rw [lacks_iff_not_mem us, h, List.mem_append, newKeys, List.mem_eraseDups, List.mem_filter,
    lacks_iff_not_mem ts, lacks_iff_not_mem a]
  tauto

/-- The new keys of two batches are those of the first, and those of the second that are new after
it. -/
theorem newKeys_append (h : us.map Transcript.key = ts.map Transcript.key ++ newKeys ts a) :
    newKeys ts (a ++ b) = newKeys ts a ++ newKeys us b := by
  have later : ((b.map Transcript.key).filter fun k => lacks k ts).removeAll
      ((a.map Transcript.key).filter fun k => lacks k ts) =
        (b.map Transcript.key).filter fun k => lacks k us := by
    rw [List.removeAll, List.filter_filter]
    refine List.filter_congr fun k _ => ?_
    rw [Bool.eq_iff_iff, Bool.and_eq_true, lacks_iff_of_keys h, lacks_iff_not_mem a,
      Bool.not_eq_true', ← Bool.not_eq_true, List.elem_iff, List.mem_filter]
    tauto
  rw [newKeys, List.map_append, List.filter_append, List.eraseDups_append, later, newKeys, newKeys]

/-! ### Places -/

/-- A list in which changed transcripts were put keeps the places of the list before. -/
structure KeepsPlaces (ts changed us : List Transcript) : Prop where
  /-- Every place keeps its key, and the new keys come after them. -/
  keys : us.map Transcript.key = ts.map Transcript.key ++ newKeys ts changed
  /-- A transcript whose key is not among the changed ones stays in its place. -/
  others {i : Nat} {t : Transcript} (hi : ts[i]? = some t) (hother : lacks t.key changed = true) :
    us[i]? = some t
  /-- So does one that a later one of the list overrides. -/
  overridden {i j : Nat} {t u : Transcript} (hi : ts[i]? = some t) (hj : ts[j]? = some u)
    (hij : i < j) (hkey : u.key = t.key) : us[i]? = some t

namespace KeepsPlaces

theorem refl (ts : List Transcript) : KeepsPlaces ts [] ts where
  keys := (List.append_nil _).symm
  others hi _ := hi
  overridden hi _ _ _ := hi

/-- A place keeps its key. -/
theorem exists_getElem? (h : KeepsPlaces ts changed us) {i : Nat} (hi : ts[i]? = some t) :
    ∃ u, us[i]? = some u ∧ u.key = t.key := by
  have key : (us.map Transcript.key)[i]? = some t.key := by
    have before : (ts.map Transcript.key)[i]? = some t.key := by rw [List.getElem?_map, hi]; rfl
    rw [h.keys, List.getElem?_append_left (List.getElem?_eq_some_iff.1 before).1, before]
  rw [List.getElem?_map, Option.map_eq_some_iff] at key
  exact key

/-- Two batches one after the other are one. -/
theorem trans (h : KeepsPlaces ts a us) (h' : KeepsPlaces us b vs) :
    KeepsPlaces ts (a ++ b) vs where
  keys := by
    rw [h'.keys, h.keys, newKeys_append h.keys, List.append_assoc]
  others hi hother := by
    obtain ⟨ha, hb⟩ := lacks_append.1 hother
    exact h'.others (h.others hi ha) hb
  overridden {i j t u} hi hj hij hkey := by
    obtain ⟨v, hv, hvkey⟩ := h.exists_getElem? hj
    exact h'.overridden (h.overridden hi hj hij hkey) hv hij (hvkey.trans hkey)

end KeepsPlaces

/-- A transcript stays in its place when another one is put into its list, unless it is the last one
with that key. -/
theorem Puts.getElem?_eq_some (h : Puts t ts us) {i : Nat} {v : Transcript} (hi : ts[i]? = some v)
    (hlast : v.key = t.key → ∃ j w, i < j ∧ ts[j]? = some w ∧ w.key = t.key) : us[i]? = some v := by
  cases h with
  | @replaces before after u hkey hafter =>
      -- the one place that changes is that of the replaced transcript; behind it its key is lacking
      have set : before ++ t :: after = (before ++ u :: after).set before.length t := by simp
      by_cases here : before.length = i
      · subst here
        obtain rfl : u = v := by simpa using hi
        obtain ⟨j, w, hj, hw, hwkey⟩ := hlast hkey
        obtain ⟨n, rfl⟩ := Nat.exists_eq_add_of_lt hj
        have behind : w ∈ after := by
          rw [Nat.add_assoc, List.getElem?_append_right (Nat.le_add_right ..),
            Nat.add_sub_cancel_left, List.getElem?_cons_succ] at hw
          exact List.mem_of_getElem? hw
        exact absurd hwkey (key_ne_of_lacks hafter behind)
      · rw [set, List.getElem?_set_ne here, hi]
  | appends hnew => rw [List.getElem?_append_left (List.getElem?_eq_some_iff.1 hi).1, hi]

/-- One transcript that is put among others moves none of them. -/
theorem Puts.keepsPlaces (h : Puts t ts us) : KeepsPlaces ts [t] us where
  keys := by
    cases h with
    | @replaces before after u hkey hafter =>
        have known : lacks t.key (before ++ u :: after) = false := by
          simp [lacks, hkey]
        rw [newKeys_of_not_lacks known, List.append_nil, List.map_append, List.map_append,
          List.map_cons, List.map_cons, hkey]
    | appends hnew => rw [List.map_append, newKeys_of_lacks hnew, List.map_singleton]
  others hi hother :=
    h.getElem?_eq_some hi fun hkey => absurd hkey.symm (by simpa [lacks] using hother)
  overridden hi hj hij hkey :=
    h.getElem?_eq_some hi fun hkey' => ⟨_, _, hij, hj, hkey.trans hkey'⟩

/-- **A batch moves nothing.** -/
theorem keepsPlaces_foldl_put (ts changed : List Transcript) :
    KeepsPlaces ts changed (changed.foldl put ts) := by
  induction changed generalizing ts with
  | nil => exact .refl ts
  | cons t changed ih => exact (puts_put ts t).keepsPlaces.trans (ih (put ts t))

/-- Only the last copy of the first session gives way, and the third one comes at the end. -/
example :
    [⟨2015, 3, none, []⟩, ⟨2015, 1, some "Tools".toList, []⟩].foldl put
        [⟨2015, 1, none, []⟩, ⟨2015, 2, none, []⟩, ⟨2015, 1, none, []⟩] =
      [⟨2015, 1, none, []⟩, ⟨2015, 2, none, []⟩, ⟨2015, 1, some "Tools".toList, []⟩,
        ⟨2015, 3, none, []⟩] := by decide

/-! ### Folds -/

/-- **A fold lays last copies over last copies.**  The last copies of any request with changed
transcripts folded in are those of the request, overlaid by those of the changed transcripts; a
request for all transcripts remains one, and nothing in its list is moved; and two batches one after
the other are folded in as one. -/
theorem fold_overlays (changed : List Transcript) :
    (∀ r : Request, (r.fold changed).latest = r.latest.overlay (byKey changed)) ∧
      (∀ ts, ∃ us, (full ts).fold changed = .full us ∧ KeepsPlaces ts changed us) ∧
      ∀ (r : Request) (later : List Transcript),
        (r.fold changed).fold later = r.fold (changed ++ later) :=
  ⟨fun r => latest_fold r changed, fun ts => ⟨_, rfl, keepsPlaces_foldl_put ts changed⟩,
    fun r later => fold_fold r changed later⟩

end Request

end TranscriptSearch
