import Mathlib.Data.List.DropRight
import Mathlib.Data.List.TakeDrop
import TranscriptSearch.Proofs.Snapshot.Store
import TranscriptSearch.Snapshot.Status

/-!
# Snapshot — a file that stops its reader

The second of the build is turned into a moment as soon as it is read.  A second that no clock
reaches stops the reader there, before anything after it is looked at; whatever else is wrong with
a file is told as an error.

* `SnapshotRecord.StopsReader`: the octets with such a second.
* `SnapshotRecord.read_eq_breakdown_iff`, `Store.load_eq_breakdown_iff`: they alone stop who reads
  or loads them.
* `Store.exists_load`: any other load gives a snapshot or an error.
* `Store.exists_status`: any other load has a status.
-/

namespace TranscriptSearch

open Json

namespace SnapshotRecord

/-- Among the fields there is a second that no clock reaches, and all fields before it can be
read. -/
def HasFarSecond (f : Fields) : Prop :=
  ∃ before v after, f.entries = before ++ (builtAtField, v) :: after ∧
    (∀ e ∈ before, e.1 ≠ builtAtField ∧ isReadable e = true) ∧
    ∃ n, second? v = some n ∧ Moment.limit ≤ n

/-- The octets hold such fields. -/
def StopsReader (octets : List UInt8) : Prop :=
  HasFarSecond (fields fieldNames (readOctets octets).value)

theorem overflows_iff {v : Json} :
    overflows v = true ↔ ∃ n, second? v = some n ∧ Moment.limit ≤ n := by
  rw [overflows, Option.any_eq_true]
  simp only [decide_eq_true_eq]

theorem meetsOverflow_iff {f : Fields} : meetsOverflow f = true ↔ HasFarSecond f := by
  constructor
  · intro h
    rw [meetsOverflow, List.span_eq_takeWhile_dropWhile] at h
    split at h
    next before i v after hspan =>
      obtain ⟨hbefore, hafter⟩ := Prod.mk.inj hspan
      obtain ⟨hv, hread⟩ := Bool.and_eq_true_iff.1 h
      have hne := List.head_dropWhile_not (fun e : Nat × Json => e.1 != builtAtField)
        (l := f.entries) (by rw [hafter]; simp)
      simp only [hafter, List.head_cons, bne_eq_false_iff_eq] at hne
      subst hne
      refine ⟨before, v, after, ?_, fun e he => ⟨?_, List.all_eq_true.1 hread e he⟩,
        overflows_iff.1 hv⟩
      · rw [← hbefore, ← hafter, List.takeWhile_append_dropWhile]
      · rw [← hbefore] at he
        simpa using List.mem_takeWhile_imp he
    next => cases h
  · rintro ⟨before, v, after, hentries, hbefore, hv⟩
    have other : ∀ e ∈ before, (e.1 != builtAtField) = true := by
      intro e he
      exact bne_iff_ne.2 (hbefore e he).1
    rw [meetsOverflow, List.span_eq_takeWhile_dropWhile, hentries,
      List.takeWhile_append_of_pos other, List.dropWhile_append_of_pos other]
    simp only [List.takeWhile_cons, List.dropWhile_cons, bne_self_eq_false, Bool.false_eq_true,
      if_false, List.append_nil]
    rw [overflows_iff.2 hv, Bool.true_and, List.all_eq_true]
    exact fun e he => (hbefore e he).2

/-- Fields with a second that no clock reaches are no record. -/
theorem HasFarSecond.ofFields?_eq_none {f : Fields} (h : HasFarSecond f) : ofFields? f = none := by
  obtain ⟨before, v, after, hentries, hbefore, n, hn, hlimit⟩ := h
  have found : f.get? builtAtField = some v := by
    rw [Fields.get?, hentries, List.lookup_append, List.lookup_eq_none_iff.2, Option.none_or,
      List.lookup_cons_self]
    intro e he
    exact bne_iff_ne.2 (hbefore e he).1.symm
  have far : Moment.ofSeconds? n = none := by rw [Moment.ofSeconds?, if_neg (Nat.not_lt.2 hlimit)]
  simp [ofFields?, found, hn, far]

/-- **A second that no clock reaches is all that stops a reader.** -/
theorem read_eq_breakdown_iff {octets : List UInt8} {e : Breakdown} :
    read octets = .error (.breakdown e) ↔ StopsReader octets := by
  cases e
  simp only [read, ofFields, StopsReader]
  constructor
  · intro h
    rw [← meetsOverflow_iff]
    by_contra hstops
    rw [if_neg hstops] at h
    split at h
    next he =>
      cases h
      split at he <;> cases he
    next =>
      split at h <;> cases h
  · intro h
    rw [h.ofFields?_eq_none, if_pos (meetsOverflow_iff.2 h)]

end SnapshotRecord

namespace Store

variable {s : Store} {refused : Refusals} {files : FileTree}

/-- The snapshot file can be had, and its octets stop whoever reads them. -/
def StopsReader (s : Store) (refused : Refusals) (files : FileTree) : Prop :=
  ∃ octets, s.read refused files = .ok octets ∧ SnapshotRecord.StopsReader octets

theorem ofOctets_eq_breakdown_iff {octets : List UInt8} {fault : Breakdown} :
    s.ofOctets octets = .error (.breakdown fault) ↔ SnapshotRecord.StopsReader octets := by
  have stops : _ ↔ SnapshotRecord.StopsReader octets :=
    SnapshotRecord.read_eq_breakdown_iff (e := fault)
  rw [← stops, ofOctets]
  cases hread : SnapshotRecord.read octets with
  | error fault' => cases fault' <;> simp [RecordFault.loadFailure]
  | ok r => cases haccept : s.accept r <;> simp [Except.mapError, haccept]

/-- **A load breaks down at such a file alone.** -/
theorem load_eq_breakdown_iff {fault : Breakdown} :
    s.load refused files = .error (.breakdown fault) ↔ s.StopsReader refused files := by
  rw [load, StopsReader]
  split
  next h => simp [h]
  next h => simp [h]
  next octets h => simp [h, ofOctets_eq_breakdown_iff]

/-- **Any other load gives a snapshot or an error.** -/
theorem exists_load (h : ¬ s.StopsReader refused files) :
    (∃ x, s.load refused files = .ok x) ∨
      ∃ cause, s.load refused files = .error (.error cause) := by
  rcases hload : s.load refused files with (cause | fault) | x
  · exact .inr ⟨cause, rfl⟩
  · exact absurd (load_eq_breakdown_iff.1 hload) h
  · exact .inl ⟨x, rfl⟩

/-- **Any other load has a status**, and that is current just when there is a snapshot. -/
theorem exists_status (h : ¬ s.StopsReader refused files) :
    ∃ status, s.status refused files = .ok status ∧
      (status = .current ↔ ∃ x, s.load refused files = .ok x) := by
  rw [status]
  obtain ⟨x, hload⟩ | ⟨cause, hload⟩ := exists_load h
  · exact ⟨.current, by rw [hload], by simp [hload]⟩
  · refine ⟨cause.status, by rw [hload], ?_⟩
    cases cause <;> simp [hload, SnapshotError.status]

end Store

end TranscriptSearch
