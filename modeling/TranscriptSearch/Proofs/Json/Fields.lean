import Mathlib.Data.List.Nodup
import TranscriptSearch.Json.Fields
import TranscriptSearch.Json.Writer
import TranscriptSearch.Proofs.Number.Decimal

/-!
# Json — a written record read again

* `Fields.ofMembers_map`: members that name each field at most once are the fields.
* `Fields.isSound_ofMembers_iff`, `Fields.get?_ofMembers`: which members are fields without a fault,
  and the value of each.
* `natural?_ofNat`: a natural number below the limit reads back.
* `listOf_map`: a list is read as its elements are.
* `ReadsBack`: whether a binary64 number reads back.
-/

namespace TranscriptSearch.Json

open Number

/-! ### Fields -/

/-- A name is found at its own position. -/
theorem idxOf?_getElem {names : List Text} (hn : names.Nodup) {i : Nat} (hi : i < names.length) :
    names.idxOf? names[i] = some i := by
  rw [List.idxOf?, List.findIdx?_eq_some_iff_getElem]
  refine ⟨hi, beq_self_eq_true _, fun j hj hsame => ?_⟩
  have := (List.Nodup.getElem_inj_iff hn).1 (beq_iff_eq.1 hsame)
  omega

/-- **Members that name each field at most once are the fields.**  Here the members are given by
the positions of their names. -/
theorem Fields.ofMembers_map {names : List Text} (hn : names.Nodup) (passes : Json → Bool) :
    ∀ {ps : List (Nat × Json)} {seen : List Nat}, (∀ p ∈ ps, p.1 < names.length ∧ p.1 ∉ seen) →
      (ps.map Prod.fst).Nodup →
      Fields.ofMembers names passes seen (ps.map fun p => (names[p.1]?, p.2)) = ⟨ps, true⟩ := by
  intro ps
  induction ps with
  | nil => intro seen _ _; rfl
  | cons p ps ih =>
      intro seen hps hnodup
      obtain ⟨i, v⟩ := p
      obtain ⟨⟨hi, hseen⟩, hrest⟩ := List.forall_mem_cons.1 hps
      rw [List.map_cons, List.nodup_cons] at hnodup
      rw [List.map_cons, List.getElem?_eq_getElem hi, Fields.ofMembers, idxOf?_getElem hn hi]
      have fresh : ∀ p ∈ ps, p.1 < names.length ∧ p.1 ∉ i :: seen := fun p hp => by
        refine ⟨(hrest p hp).1, fun hmem => ?_⟩
        rcases List.mem_cons.1 hmem with e | hmem
        · exact hnodup.1 (List.mem_map.2 ⟨p, hp, e⟩)
        · exact (hrest p hp).2 hmem
      simp only [List.contains_eq_mem, hseen, decide_false, Bool.false_eq_true, if_false]
      rw [ih fresh hnodup.2]
      rfl

/-- The values that members have under a name, in order. -/
def valuesOf (name : Text) (ms : List (Option Text × Json)) : List Json :=
  (ms.filter fun m => m.1 = some name).map Prod.snd

theorem mem_valuesOf {name : Text} {ms : List (Option Text × Json)} {v : Json} :
    v ∈ valuesOf name ms ↔ (some name, v) ∈ ms := by
  simp [valuesOf]

theorem valuesOf_cons_self (name : Text) (v : Json) (ms : List (Option Text × Json)) :
    valuesOf name ((some name, v) :: ms) = v :: valuesOf name ms := by
  simp [valuesOf]

theorem valuesOf_cons_of_ne {name : Text} {m : Option Text × Json} (h : m.1 ≠ some name)
    (ms : List (Option Text × Json)) : valuesOf name (m :: ms) = valuesOf name ms := by
  simp [valuesOf, h]

/-- The name at a position is found there. -/
theorem eq_of_idxOf? {names : List Text} {k : Text} {i : Nat} (h : names.idxOf? k = some i) :
    ∃ hi : i < names.length, names[i] = k := by
  obtain ⟨hi, hsame, -⟩ := List.findIdx?_eq_some_iff_getElem.1 h
  exact ⟨hi, beq_iff_eq.1 hsame⟩

theorem ne_of_idxOf?_eq_none {names : List Text} {k : Text} (h : names.idxOf? k = none) {i : Nat}
    (hi : i < names.length) : some k ≠ some names[i] := by
  have := List.findIdx?_eq_none_iff.1 h names[i] (List.getElem_mem hi)
  exact fun e => by simp [Option.some.inj e] at this

/-- A member with the name of a field is a value of that field and of no other. -/
theorem valuesOf_cons_getElem {names : List Text} (hn : names.Nodup) {i j : Nat}
    (hi : i < names.length) (hj : j < names.length) (v : Json) (ms : List (Option Text × Json)) :
    valuesOf names[j] ((some names[i], v) :: ms) =
      if j = i then v :: valuesOf names[j] ms else valuesOf names[j] ms := by
  split
  next h =>
    subst h
    exact valuesOf_cons_self names[j] v ms
  next h =>
    refine valuesOf_cons_of_ne (fun e => h ?_) ms
    exact ((List.Nodup.getElem_inj_iff hn).1 (Option.some.inj e)).symm

namespace Fields

variable {names : List Text} {passes : Json → Bool} {seen : List Nat}
  {ms : List (Option Text × Json)}

/-- **Members are fields without a fault** when their keys are no broken strings and each name of a
field is given once at most, counting the fields that came before. -/
theorem isSound_ofMembers_iff (hn : names.Nodup) (hpass : ∀ m ∈ ms, passes m.2 = true) :
    (ofMembers names passes seen ms).isSound = true ↔ (∀ m ∈ ms, m.1 ≠ Option.none) ∧
      ∀ i (hi : i < names.length), (valuesOf names[i] ms).length ≤ if i ∈ seen then 0 else 1 := by
  induction ms generalizing seen with
  | nil => simp [ofMembers, valuesOf]
  | cons m ms ih =>
      obtain ⟨hm, hrest⟩ := List.forall_mem_cons.1 hpass
      obtain ⟨k, v⟩ := m
      cases k with
      | none => simp [ofMembers, none]
      | some k =>
          have named : (some k, v).1 ≠ Option.none := Option.some_ne_none k
          rw [ofMembers, List.forall_mem_cons, and_iff_right named]
          cases hk : names.idxOf? k with
          | none =>
              -- the member is passed over
              rw [if_pos hm, ih hrest]
              refine and_congr_right' (forall₂_congr fun i hi => ?_)
              rw [valuesOf_cons_of_ne (ne_of_idxOf?_eq_none hk hi)]
          | some i =>
              obtain ⟨hi, rfl⟩ := eq_of_idxOf? hk
              by_cases hseen : i ∈ seen
              · -- the field was given before
                simp only [List.contains_eq_mem, hseen, decide_true, if_true]
                refine iff_of_false Bool.false_ne_true fun h => ?_
                have := h.2 i hi
                simp [valuesOf_cons_self, hseen] at this
              · simp only [List.contains_eq_mem, hseen, decide_false, Bool.false_eq_true, if_false]
                rw [cons, ih hrest]
                refine and_congr_right' (forall₂_congr fun j hj => ?_)
                rw [valuesOf_cons_getElem hn hi hj]
                by_cases hj' : j = i <;> simp [hj', hseen]

/-- **The value of a field is the first value under its name.** -/
theorem get?_ofMembers (hn : names.Nodup) (hpass : ∀ m ∈ ms, passes m.2 = true)
    (h : (ofMembers names passes seen ms).isSound = true) {i : Nat} (hi : i < names.length) :
    (ofMembers names passes seen ms).get? i = (valuesOf names[i] ms).head? := by
  induction ms generalizing seen with
  | nil => rfl
  | cons m ms ih =>
      obtain ⟨hm, hrest⟩ := List.forall_mem_cons.1 hpass
      obtain ⟨k, v⟩ := m
      cases k with
      | none => cases h
      | some k =>
          rw [ofMembers] at h ⊢
          cases hk : names.idxOf? k with
          | none =>
              simp only [hk, hm, if_true] at h ⊢
              rw [valuesOf_cons_of_ne (ne_of_idxOf?_eq_none hk hi), ih hrest h]
          | some j =>
              obtain ⟨hj, rfl⟩ := eq_of_idxOf? hk
              simp only [hk] at h ⊢
              split at h
              next => cases h
              next hseen =>
                have later := ih hrest h
                rw [if_neg hseen, get?, cons, List.lookup_cons, valuesOf_cons_getElem hn hj hi]
                by_cases hij : i = j
                · simp [hij]
                · rw [if_neg hij, ← later, beq_false_of_ne hij]
                  rfl

end Fields

section Objects

variable {names : List String} {ms : List (Option Text × Json)}

/-- **An object gives the fields of a record without a fault** when no key is a broken string and no
field is given twice. -/
theorem isSound_fields_object_iff (hn : (names.map String.toList).Nodup)
    (hwhole : ∀ m ∈ ms, isWhole m.2 = true) :
    (fields names (.object ms)).isSound = true ↔ (∀ m ∈ ms, m.1 ≠ none) ∧
      ∀ i (hi : i < names.length), (valuesOf names[i].toList ms).length ≤ 1 := by
  simp [fields, Fields.isSound_ofMembers_iff hn hwhole]

theorem get?_fields_object (hn : (names.map String.toList).Nodup)
    (hwhole : ∀ m ∈ ms, isWhole m.2 = true) (h : (fields names (.object ms)).isSound = true)
    {i : Nat} (hi : i < names.length) :
    (fields names (.object ms)).get? i = (valuesOf names[i].toList ms).head? := by
  rw [fields, Fields.get?_ofMembers hn hwhole h (by simpa using hi), List.getElem_map]

end Objects

/-- The members of a record, by the positions of their names. -/
def placed (names : List String) (ps : List (Nat × Json)) : List (Option Text × Json) :=
  ps.map fun p => ((names.map String.toList)[p.1]?, p.2)

theorem ofMembers_placed {names : List String} (hn : (names.map String.toList).Nodup)
    (passes : Json → Bool) {ps : List (Nat × Json)} (hps : ∀ p ∈ ps, p.1 < names.length)
    (hnodup : (ps.map Prod.fst).Nodup) :
    Fields.ofMembers (names.map String.toList) passes [] (placed names ps) = ⟨ps, true⟩ :=
  Fields.ofMembers_map hn _ (fun p hp => ⟨by simpa using hps p hp, List.not_mem_nil⟩) hnodup

theorem fields_placed {names : List String} (hn : (names.map String.toList).Nodup)
    {ps : List (Nat × Json)} (hps : ∀ p ∈ ps, p.1 < names.length)
    (hnodup : (ps.map Prod.fst).Nodup) :
    fields names (.object (placed names ps)) = ⟨ps, true⟩ :=
  ofMembers_placed hn _ hps hnodup

theorem soundFields?_placed {names : List String} (hn : (names.map String.toList).Nodup)
    {ps : List (Nat × Json)} (hps : ∀ p ∈ ps, p.1 < names.length)
    (hnodup : (ps.map Prod.fst).Nodup) :
    soundFields? names (.object (placed names ps)) = some ⟨ps, true⟩ := by
  rw [soundFields?, fields_placed hn hps hnodup, if_pos rfl]

/-! ### Values of fields -/

/-- **A natural number below the limit reads back.** -/
theorem natural?_ofNat {limit n : Nat} (h : n < limit) : (ofNat n).natural? limit = some n :=
  digits?_decimal h

theorem lt_of_natural?_ofNat {limit n m : Nat} (h : (ofNat n).natural? limit = some m) :
    n < limit := by
  rw [ofNat, Json.natural?, digits?, digitsValue_decimal] at h
  split at h
  next hn => simpa using (Bool.and_eq_true_iff.1 hn).2
  next => cases h

/-- What is written one by one is read one by one. -/
theorem mapM_map {α β γ : Type*} {read : β → Option γ} {write : α → β} {f : α → γ} {l : List α}
    (h : ∀ a ∈ l, read (write a) = some (f a)) : (l.map write).mapM read = some (l.map f) := by
  induction l with
  | nil => rfl
  | cons a l ih =>
      rw [List.map_cons, List.mapM_cons, h a List.mem_cons_self,
        ih fun b hb => h b (List.mem_cons_of_mem a hb)]
      rfl

/-- **A list is read as its elements are.** -/
theorem listOf_map {α γ : Type*} {read : Json → Option γ} {write : α → Json} {f : α → γ}
    {l : List α} (h : ∀ a ∈ l, read (write a) = some (f a)) :
    listOf read (.array (l.map write)) = some (l.map f) :=
  mapM_map h

/-- What is read one by one can be read one by one. -/
theorem exists_of_mapM {β γ : Type*} {read : β → Option γ} {l : List β} {cs : List γ}
    (h : l.mapM read = some cs) : ∀ b ∈ l, ∃ c, read b = some c := by
  induction l generalizing cs with
  | nil => exact List.forall_mem_nil _
  | cons b l ih =>
      rw [List.mapM_cons] at h
      obtain ⟨c, hb, h⟩ := Option.bind_eq_some_iff.1 h
      obtain ⟨rest, hl, -⟩ := Option.bind_eq_some_iff.1 h
      exact List.forall_mem_cons.2 ⟨⟨c, hb⟩, ih hl⟩

theorem exists_of_listOf_map {α γ : Type*} {read : Json → Option γ} {write : α → Json} {l : List α}
    {cs : List γ} (h : listOf read (.array (l.map write)) = some cs) :
    ∀ a ∈ l, ∃ c, read (write a) = some c :=
  fun a ha => exists_of_mapM h (write a) (List.mem_map_of_mem ha)

/-- Whether a number reads back as it was written.  The digits that are written are those of no
other number, but reading them rounds twice. -/
def ReadsBack (x : Binary64) : Prop := (ofBinary64 x).binary64? = some x

instance (x : Binary64) : Decidable (ReadsBack x) :=
  inferInstanceAs (Decidable ((ofBinary64 x).binary64? = some x))

end TranscriptSearch.Json
