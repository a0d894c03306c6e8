import TranscriptSearch.Proofs.Index.Attainable
import TranscriptSearch.Proofs.Index.Postings
import TranscriptSearch.Proofs.Index.Report

/-!
# Index — repeated and independent batches

A merge takes each session of its batch out of the lists and puts it at their ends, one after the
other.  On the way lists are rotated, and some vanish and come back; what is left in the end is told
by the batch as a whole.

* `Attainable.merge_repeated`: a batch that is merged again leaves the index and the report as they
  were.
* `Batch.Independent`: two batches have no key in common; `lastCopies_append`,
  `overridden_append`: then neither overrides a copy of the other.
* `Index.Reorders`: two indexes differ in nothing but the order of sessions within the lists.
* `Attainable.merge_independent`: independent batches are merged one by one, in either order, or
  as one.
-/

namespace TranscriptSearch

/-! ### A batch that is merged again -/

namespace Index

open Batch (lacks accepted standing?)

variable {x : Index}

/-- A merge leaves the lists that it makes of themselves. -/
theorem Linked.merge_merge_self (h : x.Linked) (batch : List Transcript) :
    (x.merge batch).merge batch = x.merge batch := by
  have again := h.merge batch
  have rule := rule_merge x batch
  refine ext_occurrences (rule_merge _ batch) (SortedMap.ext_get? fun k => ?_) (fun term => ?_)
    fun term => ?_
  · rw [sessions_merge, sessions_merge, rule]
    cases standing? k batch with
    | none => rfl
    | some t => rfl
  · -- the occurrences in sessions of the batch are gone from the front, and all those at the end go
    have kept : ((x.occurrences term).filter fun p => lacks p.session (accepted batch)).filter
        (fun p => lacks p.session (accepted batch)) =
          (x.occurrences term).filter fun p => lacks p.session (accepted batch) := by
      rw [List.filter_filter]
      simp only [Bool.and_self]
    have gone : (accepted batch).filter (fun t => lacks t.key (accepted batch)) = [] :=
      List.filter_eq_nil_iff.2 fun t ht hlacks => Batch.key_ne_of_lacks hlacks ht rfl
    rw [again.occurrences_merge, h.occurrences_merge, List.filter_append, kept,
      TermRule.filter_flatMap_postingsOf _ _ (lacks · (accepted batch)), gone, rule,
      List.flatMap_nil, List.append_nil]
  · rw [again.isVacant_merge, h.isVacant_merge, rule, and_assoc, and_self]

/-- **A batch that is merged again changes nothing.**  The index stays as it is, with every list in
its order, and the report is the same; so it is with a batch that an index has been built of. -/
theorem Attainable.merge_repeated (h : x.Attainable) (batch : List Transcript) :
    (x.merge batch).merge batch = x.merge batch ∧
    (x.mergeReporting batch).1.mergeReporting batch = x.mergeReporting batch ∧
    (build x.rule batch).merge batch = build x.rule batch ∧
    (x.buildReporting batch).1.mergeReporting batch = x.buildReporting batch := by
  have merged := h.linked.merge_merge_self batch
  have built := (linked_empty x.rule).merge_merge_self batch
  refine ⟨merged, ?_, built, ?_⟩
  · rw [mergeReporting_eq, mergeReporting_eq, merged]
  · rw [buildReporting, mergeReporting_eq, mergeReporting_eq, built]

/-- The session of the handwritten form, told twice and the second time with an invalid timecode,
and another session between. -/
def retold : List Transcript :=
  [⟨2024, 1, none, [⟨"a ghost".toList, ⟨0⟩⟩]⟩, another,
    ⟨2024, 1, none, [⟨"a swift ghost".toList, ⟨0xFFF0000000000000⟩⟩]⟩]

/-- A handwritten form with an empty list stands a batch with a repeated key. -/
theorem handwritten_merge_repeated :
    ∃ x, handwritten.index = .ok x ∧ (x.merge retold).merge retold = x.merge retold := by
  obtain ⟨x, hx⟩ := Stored.exists_index_iff.2 (by decide : handwritten.IsConsistent)
  exact ⟨x, hx, ((Attainable.stored hx).merge_repeated retold).1⟩

end Index

/-! ### Batches without a common key -/

namespace Batch

/-- No key is in both of two batches. -/
def Independent (a b : List Transcript) : Prop := ∀ t ∈ a, ∀ u ∈ b, t.key ≠ u.key

variable {a b : List Transcript} {t : Transcript}

theorem Independent.symm (h : Independent a b) : Independent b a :=
  fun u hu t ht => (h t ht u hu).symm

theorem Independent.tail (h : Independent (t :: a) b) : Independent a b :=
  fun u hu => h u (List.mem_cons_of_mem t hu)

/-- What comes after in the other batch does not count. -/
theorem Independent.lacks_append_iff (h : Independent (t :: a) b) :
    lacks t.key (a ++ b) = true ↔ lacks t.key a = true := by
  have other : lacks t.key b = true := by
    rw [Index.Log.lacks_iff]
    rintro ⟨u, hu, hk⟩
    exact h t List.mem_cons_self u hu hk.symm
  rw [lacks_append, and_iff_left other]

theorem lastCopies_append (h : Independent a b) :
    lastCopies (a ++ b) = lastCopies a ++ lastCopies b := by
  induction a with
  | nil => rfl
  | cons t a ih =>
      rw [List.cons_append, lastCopies, lastCopies, ih h.tail]
      simp only [h.lacks_append_iff]
      split
      · rfl
      · rfl

theorem overridden_append (h : Independent a b) :
    overridden (a ++ b) = overridden a ++ overridden b := by
  induction a with
  | nil => rfl
  | cons t a ih =>
      rw [List.cons_append, overridden, overridden, ih h.tail]
      simp only [h.lacks_append_iff]
      split
      · rfl
      · rfl

theorem accepted_append (h : Independent a b) : accepted (a ++ b) = accepted a ++ accepted b := by
  rw [accepted, lastCopies_append h, List.filter_append]
  rfl

/-- The copy of a key that stands is in one of the batches, whichever comes first. -/
theorem standing?_append_comm (h : Independent a b) (k : SessionKey) :
    standing? k (a ++ b) = standing? k (b ++ a) := by
  rw [standing?, standing?, last?_append, last?_append]
  cases ha : last? k a with
  | none => rw [Option.or_none, Option.none_or]
  | some t =>
      cases hb : last? k b with
      | none => rfl
      | some u =>
          have same : t.key = u.key := (key_of_last? ha).trans (key_of_last? hb).symm
          exact absurd same (h t (mem_of_last? ha) u (mem_of_last? hb))

end Batch

namespace Report

/-- Two reports together say what one says: they count as many sessions, and list the same skipped
transcripts, each as often. -/
structure Together (r s whole : Report) : Prop where
  /-- As many sessions are indexed. -/
  indexed : r.indexed + s.indexed = whole.indexed
  /-- The same transcripts are skipped for the same reasons. -/
  skipped : (r.skipped ++ s.skipped).Perm whole.skipped

theorem Together.symm {r s whole : Report} (h : r.Together s whole) : s.Together r whole where
  indexed := (Nat.add_comm ..).trans h.indexed
  skipped := List.perm_append_comm.trans h.skipped

/-- The reports on independent batches make up the report on both. -/
theorem together_ofBatch {a b : List Transcript} (h : Batch.Independent a b) :
    (ofBatch a).Together (ofBatch b) (ofBatch (a ++ b)) where
  indexed := by
    simp only [ofBatch]
    rw [Batch.accepted_append h, List.length_append]
  skipped := by
    -- all overridden copies come before all rejected ones
    simp only [ofBatch]
    rw [Batch.overridden_append h, Batch.lastCopies_append h, List.map_append,
      List.filterMap_append, List.append_assoc, List.append_assoc]
    refine List.Perm.append_left _ ?_
    rw [← List.append_assoc, ← List.append_assoc]
    exact List.perm_append_comm.append_right _

end Report

namespace Index

open Batch (lacks accepted standing?)

/-- Two indexes hold the same, though a list of one may have the sessions in another order. -/
structure Reorders (x y : Index) : Prop extends x.Agrees y where
  /-- The same terms have a list. -/
  terms : ∀ term, x.postings.contains term = y.postings.contains term
  /-- A list of one is a list of the other in some order. -/
  occurrences : ∀ term, (x.occurrences term).Perm (y.occurrences term)

theorem contains_postings_iff (x : Index) (term : Text) :
    x.postings.contains term = true ↔ x.IsVacant term ∨ x.occurrences term ≠ [] := by
  rw [SortedMap.contains, IsVacant, occurrences]
  cases x.postings.get? term with
  | none => simp
  | some l => by_cases h : l = [] <;> simp [h]

variable {x : Index} {a b : List Transcript}

/-- Only the copies that stand matter to what is held of each session. -/
theorem Linked.agrees_of_standing? (h : x.Linked) (hs : ∀ k, standing? k a = standing? k b) :
    (x.merge a).Agrees (x.merge b) where
  rule := (rule_merge x a).trans (rule_merge x b).symm
  sessions := SortedMap.ext_get? fun k => by rw [sessions_merge, sessions_merge, hs]
  occurrencesIn k term := by rw [h.occurrencesIn_merge, h.occurrencesIn_merge, hs]

/-- Batches that are independent are merged at once as they are one by one. -/
theorem merge_append (x : Index) (h : Batch.Independent a b) :
    (x.merge a).merge b = x.merge (a ++ b) := by
  rw [merge, merge, merge, Batch.accepted_append h, List.foldl_append]

theorem Linked.reorders_merge_append (h : x.Linked) (hab : Batch.Independent a b) :
    (x.merge (a ++ b)).Reorders (x.merge (b ++ a)) := by
  have swap : ∀ term, ((accepted a ++ accepted b).flatMap (x.rule.postingsOf term)).Perm
      ((accepted b ++ accepted a).flatMap (x.rule.postingsOf term)) := fun term =>
    List.perm_append_comm.flatMap_right _
  have lists : ∀ term, ((x.merge (a ++ b)).occurrences term).Perm
      ((x.merge (b ++ a)).occurrences term) := fun term => by
    rw [h.occurrences_merge, h.occurrences_merge, Batch.accepted_append hab,
      Batch.accepted_append hab.symm]
    refine List.Perm.append (List.Perm.of_eq (List.filter_congr fun p _ => ?_)) (swap term)
    rw [Bool.eq_iff_iff, Batch.lacks_append, Batch.lacks_append, and_comm]
  refine ⟨h.agrees_of_standing? (Batch.standing?_append_comm hab), fun term => ?_, lists⟩
  have vacant : (x.merge (a ++ b)).IsVacant term ↔ (x.merge (b ++ a)).IsVacant term := by
    rw [h.isVacant_merge, h.isVacant_merge, Batch.accepted_append hab,
      Batch.accepted_append hab.symm, ← List.isEmpty_iff, (swap term).isEmpty_eq, List.isEmpty_iff]
  rw [Bool.eq_iff_iff, contains_postings_iff, contains_postings_iff, vacant, Ne, Ne,
    ← List.isEmpty_iff, (lists term).isEmpty_eq, List.isEmpty_iff]

/-- **Independent batches commute.**  When two batches have no key in common, to merge one after the
other is to merge them as one; the other order gives the same sessions, with their attributes, terms
and lines, the same terms in all, and for each term the same occurrences in each session in their
order, so that at most the order of the sessions differs; and either way the two reports together
say what the report on both batches as one says. -/
theorem Attainable.merge_independent (h : x.Attainable) (hab : Batch.Independent a b) :
    (x.merge a).merge b = x.merge (a ++ b) ∧
    ((x.merge a).merge b).Reorders ((x.merge b).merge a) ∧
    (x.mergeReporting a).2.Together ((x.merge a).mergeReporting b).2
      (x.mergeReporting (a ++ b)).2 ∧
    (x.mergeReporting b).2.Together ((x.merge b).mergeReporting a).2
      (x.mergeReporting (a ++ b)).2 := by
  have reports := Report.together_ofBatch hab
  simp only [mergeReporting_eq]
  rw [merge_append x hab, merge_append x hab.symm]
  exact ⟨rfl, h.linked.reorders_merge_append hab, reports, reports.symm⟩

/-- Another session, told twice. -/
def echoed : List Transcript :=
  [⟨2024, 3, none, [⟨"a ghost".toList, ⟨0⟩⟩]⟩, ⟨2024, 3, none, [⟨"swift ghost".toList, ⟨0⟩⟩]⟩]

/-- A handwritten form takes a retold session and another one in either order. -/
theorem handwritten_merge_independent :
    ∃ x, handwritten.index = .ok x ∧ Batch.Independent retold echoed ∧
      ((x.merge retold).merge echoed).Reorders ((x.merge echoed).merge retold) := by
  obtain ⟨x, hx⟩ := Stored.exists_index_iff.2 (by decide : handwritten.IsConsistent)
  have independent : Batch.Independent retold echoed := by
    simp [Batch.Independent, retold, echoed, another, Transcript.key]
  exact ⟨x, hx, independent, ((Attainable.stored hx).merge_independent independent).2.1⟩

end Index

end TranscriptSearch
