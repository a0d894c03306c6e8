import Mathlib.Data.List.FinRange
import TranscriptSearch.Proofs.Index.Agreement
import TranscriptSearch.Proofs.Index.Log

/-!
# Index — a report accounts for every transcript

A merge goes through its batch twice.  First it looks up where each key stands last, and sifts the
batch: a copy that a later one overrides is put on the report.  Then it takes the copies that stand
one after the other, and either indexes a copy or puts it on the report.  What the index holds has
no say in that.

* `Batch.sift`, `Index.mergeReporting`: a batch is sifted, and merged with a report.
* `Index.mergeReporting_eq`: index and report are those of the batch as a whole.
* `Batch.IsLast`: which positions of a batch hold the last copy of their key.
* `Report.Accounts`: what a report says of each position, and what the index holds of it.
* `Index.merge_accounted`: the reports of a merge and of a build account for their batch.
-/

namespace TranscriptSearch

namespace Batch

/-! ### A batch is sifted -/

/-- The last position of each key in a batch that begins at a position. -/
def positionsFrom (start : Nat) (batch : List Transcript) : SortedMap SessionKey Nat :=
  .ofList ((batch.zipIdx start).map fun p => (p.1.key, p.2))

/-- A transcript goes to those that stand, or on the report when its key stands last elsewhere. -/
def siftOne (last : SortedMap SessionKey Nat) (sifted : List Transcript × List Skipped)
    (p : Transcript × Nat) : List Transcript × List Skipped :=
  if last.get? p.1.key = some p.2 then (sifted.1 ++ [p.1], sifted.2)
  else (sifted.1, sifted.2 ++ [.duplicateSession p.1.key])

/-- The transcripts of a batch that stand, and what is reported of the others. -/
def sift (batch : List Transcript) : List Transcript × List Skipped :=
  batch.zipIdx.foldl (siftOne (positionsFrom 0 batch)) ([], [])

variable {batch : List Transcript} {t : Transcript} {k : SessionKey} {start : Nat}

theorem positionsFrom_append (start : Nat) (before rest : List Transcript) (k : SessionKey) :
    (positionsFrom start (before ++ rest)).get? k =
      ((positionsFrom (start + before.length) rest).get? k).or
        ((positionsFrom start before).get? k) := by
  rw [positionsFrom, List.zipIdx_append, List.map_append, SortedMap.get?_ofList_append]
  rfl

/-- A key that a batch lacks has no position in it. -/
theorem positionsFrom_eq_none (h : lacks k batch = true) :
    (positionsFrom start batch).get? k = none := by
  rw [positionsFrom, SortedMap.get?_ofList, Option.map_eq_none_iff, List.find?_eq_none]
  intro p hp hk
  obtain ⟨q, hq, rfl⟩ := List.mem_map.1 (List.mem_reverse.1 hp)
  exact (Index.Log.lacks_iff k batch).1 h ⟨q.1, List.fst_mem_of_mem_zipIdx hq, of_decide_eq_true hk⟩

/-- A key that a batch has stands last at a position from its beginning on. -/
theorem exists_positionsFrom (start : Nat) (h : ¬ lacks k batch = true) :
    ∃ i, (positionsFrom start batch).get? k = some i ∧ start ≤ i := by
  rw [Index.Log.lacks_iff, not_not] at h
  obtain ⟨u, hu, rfl⟩ := h
  obtain ⟨n, hn, rfl⟩ := List.getElem_of_mem hu
  have found : ((positionsFrom start batch).get? batch[n].key).isSome := by
    rw [positionsFrom, SortedMap.get?_ofList, Option.isSome_map, List.find?_isSome]
    refine ⟨(batch[n].key, start + n), ?_, decide_eq_true rfl⟩
    rw [List.mem_reverse, List.mem_map]
    exact ⟨_, List.mk_add_mem_zipIdx_iff_getElem?.2 (List.getElem?_eq_getElem hn), rfl⟩
  obtain ⟨i, hi⟩ := Option.isSome_iff_exists.1 found
  obtain ⟨p, hp, he⟩ := List.mem_map.1 (SortedMap.mem_of_get?_ofList hi)
  refine ⟨i, hi, ?_⟩
  rw [← (Prod.mk.inj he).2]
  exact List.le_snd_of_mem_zipIdx hp

/-- **A position is the last one of its key** when the key does not come again. -/
theorem positionsFrom_eq_some_iff (start : Nat) (before : List Transcript) (t : Transcript)
    (rest : List Transcript) :
    (positionsFrom start (before ++ t :: rest)).get? t.key = some (start + before.length) ↔
      lacks t.key rest = true := by
  have here : (positionsFrom start (before ++ [t])).get? t.key = some (start + before.length) := by
    rw [positionsFrom_append]
    simp [positionsFrom, SortedMap.get?_ofList]
  rw [List.append_cons, positionsFrom_append]
  constructor
  · intro h
    by_contra hlacks
    obtain ⟨i, hi, hle⟩ := exists_positionsFrom (start + (before ++ [t]).length) hlacks
    rw [hi, Option.some_or, Option.some.injEq] at h
    rw [List.length_append, List.length_singleton] at hle
    omega
  · intro h
    rw [positionsFrom_eq_none h, Option.none_or, here]

theorem foldl_siftOne (before rest : List Transcript) (sifted : List Transcript × List Skipped) :
    (rest.zipIdx before.length).foldl (siftOne (positionsFrom 0 (before ++ rest))) sifted =
      (sifted.1 ++ lastCopies rest, sifted.2 ++ (overridden rest).map .duplicateSession) := by
  induction rest generalizing before sifted with
  | nil => simp [lastCopies, overridden]
  | cons t rest ih =>
      have later := ih (before ++ [t])
      rw [← List.append_cons, List.length_append, List.length_singleton] at later
      have last := positionsFrom_eq_some_iff 0 before t rest
      rw [Nat.zero_add] at last
      rw [List.zipIdx_cons, List.foldl_cons, later, siftOne, lastCopies, overridden]
      by_cases h : lacks t.key rest = true
      · rw [if_pos (last.2 h), if_pos h, if_pos h]
        simp
      · rw [if_neg (mt last.1 h), if_neg h, if_neg h]
        simp

/-- **What stands is the last copy of each key**, and each other copy is reported. -/
theorem sift_eq (batch : List Transcript) :
    sift batch = (lastCopies batch, (overridden batch).map .duplicateSession) :=
  foldl_siftOne [] batch ([], [])

/-! ### A rejected transcript -/

/-- What is reported of a transcript names its first line whose timecode is below zero or not
finite, and that timecode. -/
def NamesFirstLine (t : Transcript) (s : Skipped) : Prop :=
  ∃ n l, t.lines[n]? = some l ∧ (l.timecode.isFinite = false ∨ l.timecode.isBelowZero = true) ∧
    (∀ m < n, ∀ l' ∈ t.lines[m]?, l'.timecode.isFinite = true ∧ l'.timecode.isBelowZero = false) ∧
    s = .invalidTimecode t.key n l.timecode

theorem isValid_eq_false_iff {c : Timecode} :
    Timecode.isValid c = false ↔ c.isFinite = false ∨ c.isBelowZero = true := by
  rw [Timecode.isValid]
  cases c.isFinite <;> simp

theorem rejection?_eq_none_iff : rejection? t = none ↔ Index.Log.IsSound t := by
  rw [Index.Log.isSound_iff, rejection?, Option.map_eq_none_iff, invalidLine?,
    Option.map_eq_none_iff, List.find?_eq_none, isValid, List.all_eq_true]
  constructor
  · intro h l hl
    obtain ⟨n, hn⟩ := List.getElem?_of_mem hl
    simpa using h (l, n) (List.mk_mem_zipIdx_iff_getElem?.2 hn)
  · intro h p hp
    simpa using h p.1 (List.fst_mem_of_mem_zipIdx hp)

/-- **A rejection names the first line that is not valid.** -/
theorem namesFirstLine_of_rejection? {s : Skipped} (h : rejection? t = some s) :
    NamesFirstLine t s := by
  obtain ⟨⟨n, c⟩, hline, rfl⟩ := Option.map_eq_some_iff.1 h
  obtain ⟨⟨l, m⟩, hfind, he⟩ := Option.map_eq_some_iff.1 hline
  obtain ⟨rfl, rfl⟩ := Prod.mk.inj he
  obtain ⟨hbad, i, hi, hget, hbefore⟩ := List.find?_eq_some_iff_getElem.1 hfind
  rw [List.length_zipIdx] at hi
  rw [List.getElem_zipIdx, Nat.zero_add, Prod.mk.injEq] at hget
  obtain ⟨rfl, rfl⟩ := hget
  refine ⟨i, t.lines[i], List.getElem?_eq_getElem hi, ?_, fun m hm l' hl' => ?_, rfl⟩
  · exact isValid_eq_false_iff.1 (by simpa using hbad)
  · obtain ⟨hlt, rfl⟩ := List.getElem?_eq_some_iff.1 hl'
    simpa [Timecode.isValid] using hbefore m hm

end Batch

namespace Index

/-! ### A merge with its report -/

/-- A transcript that stands is indexed and counted, or put on the report. -/
def indexOrReport (m : Index × Report) (t : Transcript) : Index × Report :=
  match Batch.rejection? t with
  | some reason => (m.1, { m.2 with skipped := m.2.skipped ++ [reason] })
  | none        => (m.1.reindex t, { m.2 with indexed := m.2.indexed + 1 })

/-- The index with the transcripts of a batch that stand, and the report on the batch. -/
def mergeReporting (x : Index) (batch : List Transcript) : Index × Report :=
  (Batch.sift batch).1.foldl indexOrReport (x, ⟨0, (Batch.sift batch).2⟩)

/-- An index of a batch alone, and the report on it. -/
def buildReporting (x : Index) (batch : List Transcript) : Index × Report :=
  (empty x.rule).mergeReporting batch

theorem foldl_indexOrReport (ts : List Transcript) (m : Index × Report) :
    ts.foldl indexOrReport m =
      ((ts.filter Batch.isValid).foldl reindex m.1,
        ⟨m.2.indexed + (ts.filter Batch.isValid).length,
          m.2.skipped ++ ts.filterMap Batch.rejection?⟩) := by
  induction ts generalizing m with
  | nil => simp
  | cons t ts ih =>
      rw [List.foldl_cons, ih, indexOrReport]
      cases ht : Batch.rejection? t with
      | none =>
          have valid : Batch.isValid t = true :=
            (Log.isSound_iff t).1 (Batch.rejection?_eq_none_iff.1 ht)
          simp [valid, ht, Nat.add_assoc, Nat.add_comm 1]
      | some reason =>
          have invalid : ¬ Batch.isValid t = true := by
            rw [← Log.isSound_iff, ← Batch.rejection?_eq_none_iff, ht]
            simp
          simp [invalid, ht]

/-- **Index and report are those of the batch as a whole.** -/
theorem mergeReporting_eq (x : Index) (batch : List Transcript) :
    x.mergeReporting batch = (x.merge batch, .ofBatch batch) := by
  rw [mergeReporting, Batch.sift_eq, foldl_indexOrReport, Nat.zero_add]
  rfl

end Index

/-! ### The positions of a batch -/

namespace Batch

variable {batch : List Transcript}

/-- A position of a batch holds the last copy of its key. -/
def IsLast (batch : List Transcript) (i : Fin batch.length) : Prop :=
  ∀ j, i < j → batch[j].key ≠ batch[i].key

instance (batch : List Transcript) : DecidablePred (IsLast batch) :=
  fun i => inferInstanceAs (Decidable (∀ j, i < j → batch[j].key ≠ batch[i].key))

/-- The positions of a batch, in order. -/
def positions (batch : List Transcript) : List (Fin batch.length) := List.finRange batch.length

theorem positions_cons (t : Transcript) (rest : List Transcript) :
    positions (t :: rest) = 0 :: (positions rest).map Fin.succ := List.finRange_succ

theorem isLast_zero_iff {t : Transcript} {rest : List Transcript} :
    IsLast (t :: rest) (0 : Fin (rest.length + 1)) ↔ lacks t.key rest = true := by
  rw [Index.Log.lacks_iff]
  constructor
  · rintro h ⟨u, hu, hk⟩
    obtain ⟨n, hn, rfl⟩ := List.getElem_of_mem hu
    exact h (Fin.succ ⟨n, hn⟩) (Fin.succ_pos _) hk
  · intro h j hj hk
    obtain ⟨i, rfl⟩ := Fin.exists_succ_eq.2 hj.ne'
    exact h ⟨rest[i], List.getElem_mem _, hk⟩

theorem isLast_succ_iff {t : Transcript} {rest : List Transcript} {i : Fin rest.length} :
    IsLast (t :: rest) i.succ ↔ IsLast rest i := by
  constructor
  · intro h j hj
    exact h j.succ (Fin.succ_lt_succ_iff.2 hj)
  · intro h j hj
    obtain ⟨j, rfl⟩ := Fin.exists_succ_eq.2 ((Fin.succ_pos i).trans hj).ne'
    exact h j (Fin.succ_lt_succ_iff.1 hj)

/-- The positions of some kind, last ones or others, one transcript after the other. -/
theorem filter_positions_cons (kind : Bool → Bool) (t : Transcript) (rest : List Transcript) :
    (positions (t :: rest)).filter (fun i => kind (decide (IsLast (t :: rest) i))) =
      (if kind (lacks t.key rest) then [(0 : Fin (rest.length + 1))] else []) ++
        ((positions rest).filter fun i => kind (decide (IsLast rest i))).map Fin.succ := by
  have first : decide (IsLast (t :: rest) (0 : Fin (rest.length + 1))) = lacks t.key rest := by
    rw [Bool.eq_iff_iff, decide_eq_true_iff, isLast_zero_iff]
  have later :
      (positions rest).filter ((fun i => kind (decide (IsLast (t :: rest) i))) ∘ Fin.succ) =
      (positions rest).filter fun i => kind (decide (IsLast rest i)) :=
    List.filter_congr fun i _ => congrArg kind (decide_eq_decide.2 isLast_succ_iff)
  rw [positions_cons, List.filter_cons, List.filter_map, later, first]
  split <;> rfl

/-- **The copies that stand** are those at the last positions of their keys. -/
theorem map_filter_isLast (batch : List Transcript) :
    ((positions batch).filter fun i => IsLast batch i).map (fun i => batch[i]) =
      lastCopies batch := by
  induction batch with
  | nil => rfl
  | cons t rest ih =>
      have split := filter_positions_cons id t rest
      simp only [id] at split
      rw [split, List.map_append, List.map_map, lastCopies, ← ih]
      cases lacks t.key rest <;> rfl

/-- The keys that are overridden are those at the other positions. -/
theorem map_filter_not_isLast (batch : List Transcript) :
    ((positions batch).filter fun i => ¬ IsLast batch i).map (fun i => batch[i].key) =
      overridden batch := by
  induction batch with
  | nil => rfl
  | cons t rest ih =>
      simp only [decide_not] at ih ⊢
      rw [filter_positions_cons not, List.map_append, List.map_map, overridden, ← ih]
      cases lacks t.key rest <;> rfl

/-- A transcript at the last position of its key is the last copy of the key. -/
theorem last?_of_isLast {i : Fin batch.length} (h : IsLast batch i) :
    last? batch[i].key batch = some batch[i] := by
  induction batch with
  | nil => exact i.elim0
  | cons t rest ih =>
      rw [last?_cons]
      cases i using Fin.cases with
      | zero =>
          have gone : last? t.key rest = none := last?_eq_none_iff.2 (isLast_zero_iff.1 h)
          change (last? t.key rest).or (if t.key = t.key then some t else none) = some t
          rw [gone, Option.none_or, if_pos rfl]
      | succ i =>
          have later := ih (isLast_succ_iff.1 h)
          change (last? rest[i].key rest).or _ = some rest[i]
          rw [later, Option.some_or]

end Batch

/-! ### What a report says -/

namespace Report

open Batch
open Index.Log (IsSound)

/-- A report accounts for every position of a batch, of which an index holds what is not skipped. -/
structure Accounts (r : Report) (batch : List Transcript) (y : Index) : Prop where
  /-- Every transcript is indexed or skipped. -/
  total : r.indexed + r.skipped.length = batch.length
  /-- First, in the order of the batch, every copy is skipped that is not the last of its key; then,
  in the order of the batch, every last copy with a timecode that is below zero or not finite. -/
  skipped : ∃ rejected, r.skipped =
      ((positions batch).filter fun i => ¬ IsLast batch i).map
        (fun i => .duplicateSession batch[i].key) ++ rejected ∧
    List.Forall₂ (fun i s => NamesFirstLine batch[i] s)
      ((positions batch).filter fun i => IsLast batch i ∧ ¬ IsSound batch[i]) rejected
  /-- The other last copies are counted. -/
  indexed : r.indexed = ((positions batch).filter fun i => IsLast batch i ∧ IsSound batch[i]).length
  /-- Each of them is held as it is. -/
  held : ∀ i, IsLast batch i → IsSound batch[i] →
    y.attributes? batch[i].key = some batch[i].attributes ∧
      y.lines? batch[i].key = some batch[i].lines

/-- What is left of a list stands at the elements that leave something. -/
theorem forall₂_filterMap {α β : Type*} (f : α → Option β) (l : List α) :
    List.Forall₂ (fun a b => f a = some b) (l.filter fun a => (f a).isSome) (l.filterMap f) := by
  induction l with
  | nil => exact .nil
  | cons a l ih =>
      cases ha : f a with
      | none => simpa [ha] using ih
      | some b =>
          rw [List.filter_cons_of_pos (by simp [ha]), List.filterMap_cons_some ha]
          exact .cons ha ih

variable {batch : List Transcript}

theorem length_overridden_add (batch : List Transcript) :
    (overridden batch).length + (lastCopies batch).length = batch.length := by
  rw [← map_filter_isLast, ← map_filter_not_isLast, List.length_map, List.length_map, Nat.add_comm]
  have both :=
    List.length_eq_length_filter_add (l := positions batch) fun i => decide (IsLast batch i)
  simp only [decide_not]
  rw [← both, positions, List.length_finRange]

theorem isSome_rejection?_iff {t : Transcript} : (rejection? t).isSome = true ↔ ¬ IsSound t := by
  rw [← rejection?_eq_none_iff, Option.isSome_iff_ne_none]

theorem length_accepted_add (batch : List Transcript) :
    (accepted batch).length + ((lastCopies batch).filterMap rejection?).length =
      (lastCopies batch).length := by
  have rejected : ((lastCopies batch).filterMap rejection?).length =
      ((lastCopies batch).filter fun t => !isValid t).length := by
    rw [← (forall₂_filterMap rejection? (lastCopies batch)).length_eq]
    refine congrArg List.length (List.filter_congr fun t _ => ?_)
    rw [Bool.eq_iff_iff, isSome_rejection?_iff, Index.Log.isSound_iff]
    simp
  rw [rejected, accepted, ← List.length_eq_length_filter_add]

/-- The last copies that are rejected, by their positions. -/
theorem forall₂_rejected (batch : List Transcript) :
    List.Forall₂ (fun i s => NamesFirstLine batch[i] s)
      ((positions batch).filter fun i => IsLast batch i ∧ ¬ IsSound batch[i])
      ((lastCopies batch).filterMap rejection?) := by
  have places : ((positions batch).filter fun i => IsLast batch i).filter
      (fun i => (rejection? batch[i]).isSome) =
        (positions batch).filter fun i => IsLast batch i ∧ ¬ IsSound batch[i] := by
    rw [List.filter_filter]
    refine List.filter_congr fun i _ => ?_
    rw [Bool.eq_iff_iff, Bool.and_eq_true, isSome_rejection?_iff, decide_eq_true_iff,
      decide_eq_true_iff, and_comm]
  rw [← map_filter_isLast, List.filterMap_map, ← places]
  have found := forall₂_filterMap (rejection? ∘ fun i => batch[i])
    ((positions batch).filter fun i => IsLast batch i)
  exact found.imp fun i s h => namesFirstLine_of_rejection? h

theorem length_accepted (batch : List Transcript) :
    (accepted batch).length =
      ((positions batch).filter fun i => IsLast batch i ∧ IsSound batch[i]).length := by
  rw [accepted, ← map_filter_isLast, List.filter_map, List.length_map, List.filter_filter]
  refine congrArg List.length (List.filter_congr fun i _ => ?_)
  rw [Bool.eq_iff_iff, Bool.and_eq_true, decide_eq_true_iff, decide_eq_true_iff,
    Index.Log.isSound_iff, and_comm]
  rfl

/-- **The report on a batch accounts for it** and for any index that it is merged into. -/
theorem accounts_merge (x : Index) (batch : List Transcript) :
    (ofBatch batch).Accounts batch (x.merge batch) where
  total := by
    have others := length_overridden_add batch
    have standing := length_accepted_add batch
    simp only [ofBatch, List.length_append, List.length_map]
    omega
  skipped := by
    refine ⟨(lastCopies batch).filterMap rejection?, ?_, forall₂_rejected batch⟩
    rw [ofBatch, ← map_filter_not_isLast, List.map_map]
    rfl
  indexed := length_accepted batch
  held i hlast hsound := by
    have standing : standing? batch[i].key batch = some batch[i] := by
      rw [standing?, last?_of_isLast hlast, Option.filter_some,
        if_pos ((Index.Log.isSound_iff _).1 hsound)]
    have session : (x.merge batch).sessions.get? batch[i].key =
        some (Index.sessionOf x.rule batch[i]) := by
      rw [Index.sessions_merge, standing, Option.map_some, Option.some_or]
    rw [Index.attributes?, Index.lines?, session]
    exact ⟨rfl, rfl⟩

end Report

namespace Index

/-- **Reports account for every transcript.**  A merge, and a build of an index alone, skip the
copies that a later one overrides and the last copies with a timecode that is not valid, say so once
for each of them, and hold the others as they are. -/
theorem merge_accounted (x : Index) (batch : List Transcript) :
    (x.mergeReporting batch = (x.merge batch, .ofBatch batch) ∧
      (Report.ofBatch batch).Accounts batch (x.merge batch)) ∧
    x.buildReporting batch = (build x.rule batch, .ofBatch batch) ∧
      (Report.ofBatch batch).Accounts batch (build x.rule batch) :=
  ⟨⟨mergeReporting_eq x batch, Report.accounts_merge x batch⟩,
    mergeReporting_eq (empty x.rule) batch, Report.accounts_merge (empty x.rule) batch⟩

end Index

end TranscriptSearch
