/-!
# Sorted maps

A finite map kept as the list of its entries with strictly ascending keys. Two maps with the
same entries are therefore equal, and the order of the entries is the order in which a map is
written out.

* `get?_insert`, `get?_erase`: what a look-up gives after an insertion and after a removal.
* `get?_eq_some_iff`: a look-up finds exactly the entries of the list.
-/

namespace TranscriptSearch

open Std

/-- A finite map, as its entries in strictly ascending order of their keys. -/
structure SortedMap (α : Type u) (β : Type v) [Ord α] where
  /-- The entries. -/
  toList : List (α × β)
  /-- The keys of the entries ascend strictly. -/
  ascending : toList.Pairwise fun p q => compare p.1 q.1 = .lt

namespace SortedMap

variable {α : Type u} {β : Type v} [Ord α]

instance [DecidableEq α] [DecidableEq β] : DecidableEq (SortedMap α β)
  | ⟨l, _⟩, ⟨m, _⟩ =>
    if h : l = m then .isTrue (by subst h; rfl) else .isFalse fun e => h (congrArg toList e)

/-- The map without entries. -/
def empty : SortedMap α β := ⟨[], .nil⟩

instance : EmptyCollection (SortedMap α β) := ⟨empty⟩
instance : Inhabited (SortedMap α β) := ⟨empty⟩

/-- The keys, ascending. -/
def keys (m : SortedMap α β) : List α := m.toList.map (·.1)

/-- The values, in the order of their keys. -/
def values (m : SortedMap α β) : List β := m.toList.map (·.2)

/-- The number of entries. -/
def size (m : SortedMap α β) : Nat := m.toList.length

/-- Whether there are no entries. -/
def isEmpty (m : SortedMap α β) : Bool := m.toList.isEmpty

/-- The value of the first entry with key `k`. -/
def find (k : α) : List (α × β) → Option β
  | [] => none
  | (k', v) :: rest => if compare k k' = .eq then some v else find k rest

/-- The value at key `k`. -/
def get? (m : SortedMap α β) (k : α) : Option β := find k m.toList

/-- Whether there is an entry at key `k`. -/
def contains (m : SortedMap α β) (k : α) : Bool := (m.get? k).isSome

/-- An entry put among ascending entries, in the place of one with its key. -/
def place (k : α) (v : β) : List (α × β) → List (α × β)
  | [] => [(k, v)]
  | (k', v') :: rest =>
    match compare k k' with
    | .lt => (k, v) :: (k', v') :: rest
    | .eq => (k, v) :: rest
    | .gt => (k', v') :: place k v rest

theorem mem_place {k : α} {v : β} {p : α × β} {l : List (α × β)} (h : p ∈ place k v l) :
    p = (k, v) ∨ p ∈ l := by
  induction l with
  | nil => simpa [place] using h
  | cons q rest ih =>
    obtain ⟨k', v'⟩ := q
    simp only [place] at h
    split at h <;> grind

theorem ascending_place [TransOrd α] (k : α) (v : β) {l : List (α × β)}
    (h : l.Pairwise fun p q => compare p.1 q.1 = .lt) :
    (place k v l).Pairwise fun p q => compare p.1 q.1 = .lt := by
  induction l with
  | nil => simp [place]
  | cons q rest ih =>
    obtain ⟨k', v'⟩ := q
    obtain ⟨below, sorted⟩ := List.pairwise_cons.1 h
    simp only [place]
    split
    · rename_i c
      exact List.pairwise_cons.2 ⟨fun p m => by
        rcases List.mem_cons.1 m with rfl | m
        · exact c
        · exact TransCmp.lt_trans c (below p m), h⟩
    · rename_i c
      exact List.pairwise_cons.2 ⟨fun p m => TransCmp.lt_of_eq_of_lt c (below p m), sorted⟩
    · rename_i c
      refine List.pairwise_cons.2 ⟨fun p m => ?_, ih sorted⟩
      rcases mem_place m with rfl | m
      · exact OrientedCmp.lt_of_gt c
      · exact below p m

/-- The map with value `v` at key `k`. -/
def insert [TransOrd α] (m : SortedMap α β) (k : α) (v : β) : SortedMap α β :=
  ⟨place k v m.toList, ascending_place k v m.ascending⟩

/-- The map without an entry at key `k`. -/
def erase (m : SortedMap α β) (k : α) : SortedMap α β :=
  ⟨m.toList.filter fun p => compare k p.1 != .eq, m.ascending.filter _⟩

/-- The map of a list of entries; of entries with one key the last one stands. -/
def ofList [TransOrd α] (l : List (α × β)) : SortedMap α β :=
  l.foldl (fun m p => m.insert p.1 p.2) empty

/-! ### Look-ups -/

@[simp] theorem get?_empty (k : α) : (empty : SortedMap α β).get? k = none := rfl

theorem find_place [TransOrd α] [LawfulEqOrd α] (k a : α) (v : β) (l : List (α × β)) :
    find a (place k v l) = if compare a k = .eq then some v else find a l := by
  induction l with
  | nil => simp [place, find]
  | cons q rest ih =>
    obtain ⟨k', v'⟩ := q
    simp only [place]
    split
    · simp [find]
    · rename_i c
      have : k = k' := LawfulEqCmp.eq_of_compare c
      subst this
      by_cases e : compare a k = .eq <;> simp [find, e]
    · rename_i c
      by_cases e : compare a k' = .eq
      · have : a = k' := LawfulEqCmp.eq_of_compare e
        subst this
        have : compare a k ≠ .eq := by
          intro e'
          have := LawfulEqCmp.eq_of_compare e'
          subst this
          simp at c
        simp [find, this]
      · simp [find, e, ih]

theorem get?_insert [TransOrd α] [LawfulEqOrd α] [DecidableEq α] (m : SortedMap α β) (k a : α)
    (v : β) : (m.insert k v).get? a = if a = k then some v else m.get? a := by
  simp only [get?, insert, find_place]
  by_cases h : a = k
  · subst h; simp
  · have : compare a k ≠ .eq := fun e => h (LawfulEqCmp.eq_of_compare e)
    simp [h, this]

theorem find_filter [LawfulEqOrd α] [DecidableEq α] (k a : α) (l : List (α × β)) :
    find a (l.filter fun p => compare k p.1 != .eq) = if a = k then none else find a l := by
  induction l with
  | nil => simp [find]
  | cons q rest ih =>
    obtain ⟨k', v'⟩ := q
    by_cases c : compare k k' = .eq
    · have : k = k' := LawfulEqCmp.eq_of_compare c
      subst this
      by_cases h : a = k
      · subst h; simp [ih]
      · have : compare a k ≠ .eq := fun e => h (LawfulEqCmp.eq_of_compare e)
        simp [find, ih, h, this]
    · by_cases e : compare a k' = .eq
      · have : a = k' := LawfulEqCmp.eq_of_compare e
        subst this
        have : a ≠ k := fun e' => by subst e'; simp at c
        simp [find, c, this]
      · simp [find, c, e, ih]

theorem get?_erase [LawfulEqOrd α] [DecidableEq α] (m : SortedMap α β) (k a : α) :
    (m.erase k).get? a = if a = k then none else m.get? a := find_filter k a m.toList

theorem find_eq_some_iff [TransOrd α] [LawfulEqOrd α] {l : List (α × β)}
    (h : l.Pairwise fun p q => compare p.1 q.1 = .lt) (k : α) (v : β) :
    find k l = some v ↔ (k, v) ∈ l := by
  induction l with
  | nil => simp [find]
  | cons q rest ih =>
    obtain ⟨k', v'⟩ := q
    obtain ⟨below, sorted⟩ := List.pairwise_cons.1 h
    by_cases c : compare k k' = .eq
    · have : k = k' := LawfulEqCmp.eq_of_compare c
      subst this
      have : ∀ w, (k, w) ∉ rest := fun w m => by simpa using below _ m
      simp [find, this, eq_comm]
    · have : k ≠ k' := fun e => c (by subst e; simp)
      simp [find, c, ih sorted, this]

/-- A look-up finds exactly the entries of the map. -/
theorem get?_eq_some_iff [TransOrd α] [LawfulEqOrd α] (m : SortedMap α β) (k : α) (v : β) :
    m.get? k = some v ↔ (k, v) ∈ m.toList := find_eq_some_iff m.ascending k v

end SortedMap

/-- A finite set, as its elements in strictly ascending order. -/
abbrev SortedSet (α : Type u) [Ord α] := SortedMap α Unit

namespace SortedSet

variable {α : Type u} [Ord α] [Std.TransOrd α]

/-- The set with one more element. -/
def add (s : SortedSet α) (a : α) : SortedSet α := s.insert a ()

/-- The elements of a list, each once. -/
def ofList (l : List α) : SortedSet α := l.foldl add .empty

/-- The elements, ascending. -/
def elements (s : SortedSet α) : List α := s.keys

end SortedSet

end TranscriptSearch
