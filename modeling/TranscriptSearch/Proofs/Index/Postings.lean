import TranscriptSearch.Proofs.Index.Agreement
import TranscriptSearch.Proofs.Index.Log

/-!
# Index — the lists of terms after a batch

A stored form may come with empty lists.  Removal never meets them, since an empty list names no
session; a new occurrence ends them.  So an index is told by its sessions, by the occurrences of
each term and by the terms that stand with an empty list, and after a batch all three are known.

* `Batch.perm_of_last?`: batches without repeated keys are known by the last copy of each key.
* `Index.IsVacant`: a term has an empty list; `Index.ext_occurrences`: what tells indexes apart.
* `Linked.isVacant_reindex`, `Linked.isVacant_merge`: a term stays vacant until it occurs.
* `Linked.occurrences_merge`: the occurrences in sessions of the batch give way, and those of its
  accepted transcripts come at the end, in the order of the batch.
-/

namespace TranscriptSearch

/-! ### The keys of a batch -/

namespace Batch

variable {k : SessionKey} {t : Transcript} {batch rest : List Transcript}

theorem lacks_cons : lacks k (t :: rest) = true ↔ t.key ≠ k ∧ lacks k rest = true := by
  simp [lacks]

theorem lacks_append {a b : List Transcript} :
    lacks k (a ++ b) = true ↔ lacks k a = true ∧ lacks k b = true := by
  simp [lacks]

theorem key_ne_of_lacks (h : lacks k batch = true) (ht : t ∈ batch) : t.key ≠ k :=
  fun hk => (Index.Log.lacks_iff k batch).1 h ⟨t, ht, hk⟩

theorem mem_of_mem_lastCopies (h : t ∈ lastCopies batch) : t ∈ batch := by
  induction batch with
  | nil => exact h
  | cons u rest ih =>
      rw [lastCopies] at h
      split at h
      · exact (List.mem_cons.1 h).elim (· ▸ List.mem_cons_self)
          fun h => List.mem_cons_of_mem u (ih h)
      · exact List.mem_cons_of_mem u (ih h)

theorem distinct_lastCopies (batch : List Transcript) : Index.Log.Distinct (lastCopies batch) := by
  induction batch with
  | nil => exact .nil
  | cons t rest ih =>
      rw [lastCopies]
      split
      next h => exact .cons (fun u hu => (key_ne_of_lacks h (mem_of_mem_lastCopies hu)).symm) ih
      next => exact ih

/-- No two accepted transcripts have one key. -/
theorem distinct_accepted (batch : List Transcript) : Index.Log.Distinct (accepted batch) :=
  (distinct_lastCopies batch).filter _

/-! ### Batches without repeated keys -/

open Index.Log (Distinct)

/-- Of transcripts with distinct keys each one is the last with its key. -/
theorem last?_eq_some_iff (h : Distinct batch) :
    last? k batch = some t ↔ t ∈ batch ∧ t.key = k := by
  have back : Distinct batch.reverse := List.pairwise_reverse.2 (List.Pairwise.imp Ne.symm h)
  rw [last?, back.find?_eq_some_iff, List.mem_reverse]

theorem last?_lastCopies (k : SessionKey) (batch : List Transcript) :
    last? k (lastCopies batch) = last? k batch := by
  induction batch with
  | nil => rfl
  | cons t rest ih =>
      rw [lastCopies, last?_cons]
      split
      · rw [last?_cons, ih]
      next h =>
        rw [ih]
        by_cases hk : t.key = k
        · obtain ⟨u, hu⟩ := Option.ne_none_iff_exists'.1 (mt last?_eq_none_iff.1 (hk ▸ h))
          rw [hu, Option.some_or]
        · rw [if_neg hk, Option.or_none]

/-- Distinct transcripts are known, up to their order, by the last copy of each key. -/
theorem perm_of_last? {other : List Transcript} (h : Distinct batch) (h' : Distinct other)
    (hlast : ∀ k, last? k batch = last? k other) : batch.Perm other := by
  have nodup : ∀ {ts : List Transcript}, Distinct ts → ts.Nodup := fun hts =>
    List.Pairwise.imp (fun hne he => hne (congrArg Transcript.key he)) hts
  refine (List.perm_ext_iff_of_nodup (nodup h) (nodup h')).2 fun t => ?_
  have here := last?_eq_some_iff h (t := t) (k := t.key)
  rw [hlast, last?_eq_some_iff h'] at here
  simpa using here.symm

/-- Nothing is overridden just where no key is repeated. -/
theorem overridden_eq_nil_iff : overridden batch = [] ↔ Distinct batch := by
  induction batch with
  | nil => exact iff_of_true rfl .nil
  | cons t rest ih =>
      rw [overridden, Distinct, List.pairwise_cons, ← Distinct, ← ih]
      by_cases h : lacks t.key rest = true
      · rw [if_pos h]
        exact (and_iff_right fun u hu => (key_ne_of_lacks h hu).symm).symm
      · rw [if_neg h]
        refine iff_of_false (List.cons_ne_nil _ _) fun hne => h ?_
        exact (Index.Log.lacks_iff ..).2 fun ⟨u, hu, hk⟩ => hne.1 u hu hk.symm

theorem lastCopies_of_distinct (h : Distinct batch) : lastCopies batch = batch := by
  induction batch with
  | nil => rfl
  | cons t rest ih =>
      obtain ⟨hne, hrest⟩ := List.pairwise_cons.1 h
      have alone : lacks t.key rest = true :=
        (Index.Log.lacks_iff ..).2 fun ⟨u, hu, hk⟩ => hne u hu hk.symm
      rw [lastCopies, if_pos alone, ih hrest]

end Batch

namespace Index

open Batch (lacks accepted)

variable {x y : Index} {term : Text}

/-! ### Empty lists -/

/-- A term has an empty list. -/
def IsVacant (x : Index) (term : Text) : Prop := x.postings.get? term = some []

theorem get?_postings_eq (hocc : x.occurrences term = y.occurrences term)
    (hvac : x.IsVacant term ↔ y.IsVacant term) :
    x.postings.get? term = y.postings.get? term := by
  rw [occurrences, occurrences] at hocc
  rw [IsVacant, IsVacant] at hvac
  cases hx : x.postings.get? term <;> cases hy : y.postings.get? term <;> simp_all

/-- **What tells indexes apart**: the rule, the sessions, the occurrences, and the empty lists. -/
theorem ext_occurrences (hrule : x.rule = y.rule) (hsessions : x.sessions = y.sessions)
    (hocc : ∀ term, x.occurrences term = y.occurrences term)
    (hvac : ∀ term, x.IsVacant term ↔ y.IsVacant term) : x = y := by
  have hpostings : x.postings = y.postings :=
    SortedMap.ext_get? fun term => get?_postings_eq (hocc term) (hvac term)
  cases x
  cases y
  cases hrule
  cases hsessions
  cases hpostings
  rfl

theorem isVacant_insert (x : Index) (t : Transcript) (term : Text) :
    (x.insert t).IsVacant term ↔ x.IsVacant term ∧ x.rule.postingsOf term t = [] := by
  rw [IsVacant, insert, get?_foldl_record, TermRule.occurrences_filter]
  cases x.rule.postingsOf term t with
  | nil => simp [IsVacant]
  | cons p ps => simp

namespace Linked

/-- Removal does not meet an empty list, and leaves none. -/
theorem isVacant_erase (h : x.Linked) (k : SessionKey) (term : Text) :
    (x.erase k).IsVacant term ↔ x.IsVacant term := by
  rw [IsVacant, IsVacant, Index.erase]
  split
  next => exact Iff.rfl
  next s hs =>
    rw [get?_foldl_forget]
    split
    next hterm =>
      obtain ⟨p, hp, -⟩ := (h.terms hs term).1 ((SortedSet.mem_elements ..).1 hterm)
      rw [occurrences] at hp
      cases hm : x.postings.get? term with
      | none => simp
      | some l =>
          rw [hm, Option.getD_some] at hp
          refine iff_of_false (nonempty?_ne_nil _) fun e => ?_
          cases e
          cases hp
    next => exact Iff.rfl

theorem isVacant_reindex (h : x.Linked) (t : Transcript) (term : Text) :
    (x.reindex t).IsVacant term ↔ x.IsVacant term ∧ x.rule.postingsOf term t = [] := by
  rw [Index.reindex, isVacant_insert, h.isVacant_erase, rule_erase]

/-- A term stays vacant until it occurs. -/
theorem isVacant_foldl_reindex (h : x.Linked) (ts : List Transcript) (term : Text) :
    (ts.foldl Index.reindex x).IsVacant term ↔
      x.IsVacant term ∧ ts.flatMap (x.rule.postingsOf term) = [] := by
  induction ts generalizing x with
  | nil => simp
  | cons t ts ih =>
      rw [List.foldl_cons, ih (h.reindex t), h.isVacant_reindex, rule_reindex, List.flatMap_cons,
        List.append_eq_nil_iff, and_assoc]

/-! ### The occurrences -/

/-- Each session of some distinct transcripts is taken out and put at the end. -/
theorem occurrences_foldl_reindex (h : x.Linked) {ts : List Transcript} (hd : Log.Distinct ts)
    (term : Text) :
    (ts.foldl Index.reindex x).occurrences term =
      ((x.occurrences term).filter fun p => lacks p.session ts) ++
        ts.flatMap (x.rule.postingsOf term) := by
  induction ts generalizing x with
  | nil => simp [lacks]
  | cons t ts ih =>
      obtain ⟨hne, hd⟩ := List.pairwise_cons.1 hd
      have new : (x.rule.postingsOf term t).filter (fun p => lacks p.session ts) =
          x.rule.postingsOf term t := by
        rw [TermRule.filter_postingsOf _ _ (lacks · ts), if_pos]
        rw [Log.lacks_iff]
        rintro ⟨u, hu, hk⟩
        exact hne u hu hk.symm
      have old : ((x.occurrences term).filter fun p => p.session != t.key).filter
          (fun p => lacks p.session ts) =
            (x.occurrences term).filter fun p => lacks p.session (t :: ts) := by
        rw [List.filter_filter]
        refine List.filter_congr fun p _ => ?_
        rw [Bool.eq_iff_iff, Bool.and_eq_true, Batch.lacks_cons, bne_iff_ne, and_comm, ne_comm]
      rw [List.foldl_cons, ih (h.reindex t) hd, h.occurrences_reindex, List.filter_append, old, new,
        rule_reindex, List.flatMap_cons, List.append_assoc]

theorem isVacant_merge (h : x.Linked) (batch : List Transcript) (term : Text) :
    (x.merge batch).IsVacant term ↔
      x.IsVacant term ∧ (accepted batch).flatMap (x.rule.postingsOf term) = [] :=
  h.isVacant_foldl_reindex (accepted batch) term

/-- **The lists after a merge.** -/
theorem occurrences_merge (h : x.Linked) (batch : List Transcript) (term : Text) :
    (x.merge batch).occurrences term =
      ((x.occurrences term).filter fun p => lacks p.session (accepted batch)) ++
        (accepted batch).flatMap (x.rule.postingsOf term) :=
  h.occurrences_foldl_reindex (Batch.distinct_accepted batch) term

end Linked

end Index

end TranscriptSearch
