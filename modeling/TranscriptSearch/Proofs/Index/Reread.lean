import TranscriptSearch.Index.Search
import TranscriptSearch.Proofs.Index.Agreement
import TranscriptSearch.Proofs.Index.Codec
import TranscriptSearch.Proofs.Index.Stored

/-!
# Index — an index that is written and read again

The timecodes of an index are finite: those of invalid transcripts are never indexed, and no other
ones are read.  Such an index can be read where it was written, if its counts are not too large.  It
comes back with every timecode read again, and with all else as it was.

* `Index.Linked.isTimed_merge`: timecodes stay finite.
* `Index.IsCountable`: the counts of an index have as many bits as are read.
* `Index.reread`: the index that is read where an index was written.
* `Index.matchingSessions_reread`: it gives the same answers.
-/

namespace TranscriptSearch

open Number

variable {x : Index} {batch : List Transcript}

/-! ### Finite timecodes -/

theorem Batch.isFinite_of_standing? {k : SessionKey} {t : Transcript}
    (h : standing? k batch = some t) : ∀ l ∈ t.lines, l.timecode.isFinite = true := by
  obtain ⟨-, hvalid⟩ := Option.filter_eq_some_iff.1 h
  exact fun l hl => (Bool.and_eq_true_iff.1 (List.all_eq_true.1 hvalid l hl)).1

namespace Index

theorem isTimed_stored_iff : x.stored.IsTimed ↔
    (∀ {k s}, x.sessions.get? k = some s → ∀ l ∈ s.lines, l.timecode.isFinite = true) ∧
      ∀ {term p}, p ∈ x.occurrences term → p.timecode.isFinite = true := by
  have lines : (∀ s ∈ x.stored.sessions, ∀ l ∈ s.lines, l.timecode.isFinite = true) ↔
      ∀ {k s}, x.sessions.get? k = some s → ∀ l ∈ s.lines, l.timecode.isFinite = true :=
    List.forall_mem_map.trans SortedMap.forall_mem_values_iff
  have postings : (∀ ps ∈ x.stored.postings.values, ∀ p ∈ ps, p.timecode.isFinite = true) ↔
      ∀ {term p}, p ∈ x.occurrences term → p.timecode.isFinite = true := by
    refine SortedMap.forall_mem_values_iff.trans (forall_congr' fun term => ?_)
    rw [occurrences, stored]
    cases x.postings.get? term with
    | none => simp
    | some ps => simp
  exact ⟨fun h => ⟨lines.1 h.lines, postings.1 h.postings⟩,
    fun h => ⟨lines.2 h.1, postings.2 h.2⟩⟩

/-- **Timecodes stay finite** when transcripts are indexed. -/
theorem Linked.isTimed_merge (h : x.Linked) (ht : x.stored.IsTimed) (batch : List Transcript) :
    (x.merge batch).stored.IsTimed := by
  obtain ⟨hlines, hpostings⟩ := isTimed_stored_iff.1 ht
  refine isTimed_stored_iff.2 ⟨fun {k s} hs => ?_, fun {term p} hp => ?_⟩
  · rw [sessions_merge] at hs
    cases hk : Batch.standing? k batch with
    | none =>
        rw [hk] at hs
        exact hlines hs
    | some t =>
        rw [hk] at hs
        cases hs
        exact Batch.isFinite_of_standing? hk
  · have hin : p ∈ (x.merge batch).occurrencesIn p.session term :=
      List.mem_filter.2 ⟨hp, beq_self_eq_true _⟩
    rw [h.occurrencesIn_merge] at hin
    cases hk : Batch.standing? p.session batch with
    | none =>
        rw [hk] at hin
        exact hpostings (List.mem_filter.1 hin).1
    | some t =>
        rw [hk] at hin
        obtain ⟨l, hl, -, e⟩ := TermRule.mem_postingsOf.1 hin
        rw [e]
        exact Batch.isFinite_of_standing? hk l (List.mem_of_getElem? hl)

theorem isTimed_empty (rule : TermRule) : (empty rule).stored.IsTimed :=
  ⟨List.forall_mem_nil _, List.forall_mem_nil _⟩

/-! ### Reading again -/

/-- Whether the counts of an index have as many bits as are read. -/
structure IsCountable (x : Index) : Prop where
  /-- The number of sessions has 64 bits. -/
  size : x.sessions.size < UInt64.size
  /-- The position of every line has 32 bits. -/
  length : ∀ s ∈ x.sessions.values, s.lines.length ≤ UInt32.size

/-- The position of an occurrence is less than the number of lines of its session. -/
theorem Linked.line_lt (h : x.Linked) {n : Nat} (hn : ∀ s ∈ x.sessions.values, s.lines.length ≤ n) :
    ∀ ps ∈ x.postings.values, ∀ p ∈ ps, p.line < n := by
  refine SortedMap.forall_mem_values_iff.2 fun {term ps} hps p hp => ?_
  have hp' : p ∈ x.occurrences term := by rwa [occurrences, hps]
  obtain ⟨s, hs, hline⟩ := h.posting hp'
  exact lt_of_lt_of_le hline (SortedMap.forall_mem_values_iff.1 hn hs)

/-- The stored form of such an index can be read. -/
theorem Linked.legible_stored (h : x.Linked) (ht : x.stored.IsTimed) (hc : x.IsCountable)
    (hlength : x.rule.minLength < UInt64.size) : x.stored.Legible :=
  ⟨hlength, ht, h.line_lt hc.length⟩

/-- The index that is read where an index was written. -/
def reread (x : Index) : Index where
  rule := x.rule
  postings := x.postings.mapValues (List.map Posting.reread)
  sessions := x.sessions.mapValues fun s => { s with lines := s.lines.map Line.reread }

theorem stored_reread (x : Index) : x.reread.stored = x.stored.reread := by
  simp [stored, reread, Stored.reread, StoredSession.reread, SortedMap.values, SortedMap.mapValues]

theorem size_sessions_reread (x : Index) : x.reread.sessions.size = x.sessions.size :=
  List.length_map _

theorem occurrences_reread (x : Index) (term : Text) :
    x.reread.occurrences term = (x.occurrences term).map Posting.reread := by
  rw [occurrences, occurrences, reread, SortedMap.get?_mapValues]
  cases x.postings.get? term <;> rfl

theorem Linked.reread (h : x.Linked) : x.reread.Linked := by
  have sessions : ∀ {k s}, x.reread.sessions.get? k = some s → ∃ s', x.sessions.get? k = some s' ∧
      { s' with lines := s'.lines.map Line.reread } = s := fun {k s} hs => by
    rwa [Index.reread, SortedMap.get?_mapValues, Option.map_eq_some_iff] at hs
  refine ⟨fun {k s} hs => ?_, fun {term p} hp => ?_, fun {k s} hs term => ?_⟩
  · obtain ⟨s', hs', rfl⟩ := sessions hs
    exact h.key (s := s') hs'
  · rw [occurrences_reread] at hp
    obtain ⟨p', hp', rfl⟩ := List.mem_map.1 hp
    obtain ⟨s, hs, hline⟩ := h.posting hp'
    refine ⟨{ s with lines := s.lines.map Line.reread }, ?_, ?_⟩
    · rw [Index.reread, SortedMap.get?_mapValues, show p'.reread.session = p'.session from rfl, hs]
      rfl
    · rwa [List.length_map]
  · obtain ⟨s', hs', rfl⟩ := sessions hs
    rw [occurrences_reread]
    simpa [Posting.reread] using h.terms hs' term

/-- **No search looks at timecodes.** -/
theorem matchingSessions_reread (x : Index) (v : Query.Vocabulary) (raw : Text) :
    x.reread.matchingSessions v raw = x.matchingSessions v raw := by
  have keys : x.reread.keys = x.keys := SortedMap.keys_mapValues _ _
  have satisfies : ∀ k q, x.reread.satisfies k q = x.satisfies k q := fun k q => by
    rw [Index.satisfies, Index.satisfies, show x.reread.sessions.get? k = _ from
      SortedMap.get?_mapValues _ x.sessions k]
    cases x.sessions.get? k with
    | none => rfl
    | some s => rfl
  rw [Index.matchingSessions, Index.matchingSessions, keys]
  simp only [satisfies]

end Index

end TranscriptSearch
