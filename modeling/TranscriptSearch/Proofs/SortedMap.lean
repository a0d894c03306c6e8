import Mathlib.Data.List.Sort
import TranscriptSearch.SortedMap

/-!
# Sorted maps — a map is what its look-ups give

* `SortedMap.ext_get?`: two maps with the same look-ups are equal.
* `SortedMap.get?_ofList_eq_some_iff`: a list of entries with distinct keys, as a map, holds these
  entries.
* `SortedMap.overlay`: a map with the entries of another one in place of its own.
* `SortedMap.mapValues`: a map with its values changed.
* `SortedSet.contains_ofList`: a list, as a set, holds its elements.
-/

namespace TranscriptSearch

open Std

namespace SortedMap

variable {α : Type u} {β : Type v} [Ord α]

/-! ### Entries and keys -/

theorem irrefl_lt [TransOrd α] (a : α) : ¬ compare a a = .lt := by simp

theorem keys_ascending (m : SortedMap α β) : m.keys.Pairwise fun a b => compare a b = .lt :=
  List.pairwise_map.2 m.ascending

theorem nodup_keys [TransOrd α] (m : SortedMap α β) : m.keys.Nodup :=
  List.nodup_iff_pairwise_ne.2 <|
    m.keys_ascending.imp fun {a b} hlt (e : a = b) => irrefl_lt b (e ▸ hlt)

/-! ### Values -/

/-- The map with every value changed. -/
def mapValues {γ : Type*} (f : β → γ) (m : SortedMap α β) : SortedMap α γ :=
  ⟨m.toList.map fun e => (e.1, f e.2), List.pairwise_map.2 m.ascending⟩

theorem keys_mapValues {γ : Type*} (f : β → γ) (m : SortedMap α β) :
    (m.mapValues f).keys = m.keys := List.map_map

theorem get?_mapValues {γ : Type*} (f : β → γ) (m : SortedMap α β) (k : α) :
    (m.mapValues f).get? k = (m.get? k).map f := by
  obtain ⟨l, hl⟩ := m
  change find k (l.map fun e => (e.1, f e.2)) = (find k l).map f
  clear hl
  induction l with
  | nil => rfl
  | cons e l ih =>
      rw [List.map_cons, find, find]
      split
      · rfl
      · exact ih

/-! ### Look-ups -/

variable [TransOrd α] [LawfulEqOrd α]

/-- **Extensionality.**  Two maps with the same look-ups are equal. -/
theorem ext_get? {m n : SortedMap α β} (h : ∀ k, m.get? k = n.get? k) : m = n := by
  have same : ∀ p, p ∈ m.toList ↔ p ∈ n.toList := fun ⟨k, v⟩ => by
    rw [← get?_eq_some_iff, ← get?_eq_some_iff, h k]
  have lists : m.toList = n.toList := by
    have : Std.Irrefl fun p q : α × β => compare p.1 q.1 = .lt := ⟨fun p => irrefl_lt p.1⟩
    have : Std.Antisymm fun p q : α × β => compare p.1 q.1 = .lt :=
      ⟨fun p q hpq hqp => absurd (TransCmp.lt_trans hpq hqp) (irrefl_lt p.1)⟩
    exact m.ascending.eq_of_mem_iff n.ascending same
  cases m; cases n; cases lists; rfl

theorem forall_mem_values_iff {m : SortedMap α β} {p : β → Prop} :
    (∀ v ∈ m.values, p v) ↔ ∀ {k v}, m.get? k = some v → p v := by
  constructor
  · intro h k v hv
    exact h v (List.mem_map_of_mem (f := Prod.snd) ((get?_eq_some_iff m k v).1 hv))
  · intro h v hv
    obtain ⟨⟨k, v⟩, he, rfl⟩ := List.mem_map.1 hv
    exact h ((get?_eq_some_iff m k v).2 he)

theorem mem_keys (m : SortedMap α β) (k : α) : k ∈ m.keys ↔ m.contains k = true := by
  rw [contains, Option.isSome_iff_exists, keys, List.mem_map]
  constructor
  · rintro ⟨⟨k', v⟩, hm, rfl⟩
    exact ⟨v, (get?_eq_some_iff m k' v).2 hm⟩
  · rintro ⟨v, hv⟩
    exact ⟨(k, v), (get?_eq_some_iff m k v).1 hv, rfl⟩

/-! ### Maps of lists -/

variable [DecidableEq α]

theorem contains_insert (m : SortedMap α β) (k a : α) (v : β) :
    (m.insert k v).contains a = (decide (a = k) || m.contains a) := by
  by_cases h : a = k <;> simp [contains, get?_insert, h]

/-- Entries put into a map one after the other: the last one with a key stands. -/
theorem get?_foldl_insert (l : List (α × β)) (m : SortedMap α β) (k : α) :
    (l.foldl (fun m p => m.insert p.1 p.2) m).get? k =
      ((l.reverse.find? fun p => p.1 = k).map Prod.snd).or (m.get? k) := by
  induction l generalizing m with
  | nil => rfl
  | cons p l ih =>
      rw [List.foldl_cons, ih, List.reverse_cons, List.find?_append]
      cases hl : l.reverse.find? fun p => p.1 = k with
      | some q => rfl
      | none =>
          by_cases e : p.1 = k
          · simp [get?_insert, e]
          · simp [get?_insert, e, Ne.symm e]

/-- The map of a list: the last entry with a key stands. -/
theorem get?_ofList (l : List (α × β)) (k : α) :
    (ofList l).get? k = (l.reverse.find? fun p => p.1 = k).map Prod.snd := by
  rw [ofList, get?_foldl_insert, get?_empty, Option.or_none]

/-- The values of a list of entries can be changed before they are put into a map. -/
theorem ofList_map_values {γ : Type*} (f : β → γ) (l : List (α × β)) :
    ofList (l.map fun e => (e.1, f e.2)) = (ofList l).mapValues f := by
  refine ext_get? fun k => ?_
  rw [get?_mapValues, get?_ofList, get?_ofList, ← List.map_reverse, List.find?_map]
  simp [Function.comp_def]

/-- Of two lists one after the other, the entries of the second stand. -/
theorem get?_ofList_append (l m : List (α × β)) (k : α) :
    (ofList (l ++ m)).get? k = ((ofList m).get? k).or ((ofList l).get? k) := by
  rw [get?_ofList, get?_ofList, get?_ofList, List.reverse_append, List.find?_append, Option.map_or]

theorem mem_of_get?_ofList {l : List (α × β)} {k : α} {v : β} (h : (ofList l).get? k = some v) :
    (k, v) ∈ l := by
  rw [get?_ofList, Option.map_eq_some_iff] at h
  obtain ⟨⟨k', v'⟩, hp, rfl⟩ := h
  obtain rfl : k' = k := by simpa using List.find?_some hp
  exact List.mem_reverse.1 (List.mem_of_find?_eq_some hp)

/-- The map of a list without repeated keys has the entries of the list. -/
theorem get?_ofList_eq_some_iff {l : List (α × β)} (h : (l.map Prod.fst).Nodup) (k : α) (v : β) :
    (ofList l).get? k = some v ↔ (k, v) ∈ l := by
  refine ⟨mem_of_get?_ofList, fun hm => ?_⟩
  have some : ((ofList l).get? k).isSome := by
    rw [get?_ofList, Option.isSome_map, List.find?_isSome]
    exact ⟨(k, v), List.mem_reverse.2 hm, decide_eq_true rfl⟩
  obtain ⟨v', hv'⟩ := Option.isSome_iff_exists.1 some
  rw [hv', Prod.mk.inj (List.inj_on_of_nodup_map h (mem_of_get?_ofList hv') hm rfl) |>.2]

/-- A map is the map of its entries. -/
theorem ofList_toList (m : SortedMap α β) : ofList m.toList = m := by
  refine ext_get? fun k => Option.ext fun v => ?_
  rw [get?_ofList_eq_some_iff m.nodup_keys, get?_eq_some_iff]

/-- A map with the entries of another one in place of its own. -/
def overlay (m n : SortedMap α β) : SortedMap α β :=
  n.toList.foldl (fun m p => m.insert p.1 p.2) m

/-- **A value of an overlay** is one of the later map, if that has one. -/
theorem get?_overlay (m n : SortedMap α β) (k : α) :
    (m.overlay n).get? k = (n.get? k).or (m.get? k) := by
  have later : n.get? k = (n.toList.reverse.find? fun p => p.1 = k).map Prod.snd := by
    rw [← get?_ofList, ofList_toList]
  rw [overlay, get?_foldl_insert, later]

end SortedMap

namespace SortedSet

variable {α : Type u} [Ord α] [TransOrd α] [LawfulEqOrd α]

theorem contains_foldl_add (l : List α) (s : SortedSet α) (a : α) :
    (l.foldl add s).contains a = true ↔ a ∈ l ∨ s.contains a = true := by
  classical
  induction l generalizing s with
  | nil => simp
  | cons b l ih =>
      rw [List.foldl_cons, ih, add, SortedMap.contains_insert, List.mem_cons]
      simp only [Bool.or_eq_true, decide_eq_true_eq]
      tauto

/-- The set of a list holds the elements of the list. -/
theorem contains_ofList (l : List α) (a : α) : (ofList l).contains a = true ↔ a ∈ l := by
  rw [ofList, contains_foldl_add]
  exact or_iff_left (by simp [SortedMap.contains])

theorem mem_elements (s : SortedSet α) (a : α) : a ∈ s.elements ↔ s.contains a = true :=
  SortedMap.mem_keys s a

/-- Two sets with the same elements are equal. -/
theorem ext_contains {s t : SortedSet α} (h : ∀ a, s.contains a = true ↔ t.contains a = true) :
    s = t := by
  refine SortedMap.ext_get? fun a => ?_
  have ha := h a
  rw [SortedMap.contains, SortedMap.contains] at ha
  cases hs : s.get? a <;> cases ht : t.get? a <;> simp_all

end SortedSet

end TranscriptSearch
