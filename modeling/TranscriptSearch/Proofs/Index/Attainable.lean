import TranscriptSearch.Proofs.Index.Agreement
import TranscriptSearch.Proofs.Index.Codec
import TranscriptSearch.Proofs.Index.Log
import TranscriptSearch.Proofs.Index.Stored
import TranscriptSearch.Proofs.Json.Reader

/-!
# Index — the indexes that come about

An index begins empty or with a stored form, which may have been written by hand: with terms that
no line has, with an occurrence listed twice, with empty lists.  A stored form is accepted when it
is consistent, and from there on nothing that is done to the index sets its parts at odds.

* `Stored.IsConsistent`: the parts of a stored form agree; `Stored.exists_index_iff`: these stored
  forms, and no others, are accepted.
* `Index.Attainable`: the indexes that come about; `Attainable.linked`: each of them is linked.
* `Stored.ReadsBack`: whether the written text of a stored form is read as that form;
  `Stored.Fits.readsBack`: it is, as far as its numbers are.
-/

namespace TranscriptSearch

/-! ### The stored forms that are accepted -/

namespace Stored

/-- The parts of a stored form agree. -/
structure IsConsistent (d : Stored) : Prop where
  /-- No two sessions have one key. -/
  distinct : d.sessions.Pairwise fun s t => s.attributes.key ≠ t.attributes.key
  /-- Every occurrence is in a line of a session. -/
  settled : ∀ e ∈ d.postings.toList, ∀ p ∈ e.2,
    ∃ s ∈ d.sessions, s.attributes.key = p.session ∧ p.line < s.lines.length

instance (d : Stored) : Decidable d.IsConsistent :=
  decidable_of_iff
    (d.sessions.Pairwise (fun s t => s.attributes.key ≠ t.attributes.key) ∧
      ∀ e ∈ d.postings.toList, ∀ p ∈ e.2,
        ∃ s ∈ d.sessions, s.attributes.key = p.session ∧ p.line < s.lines.length)
    ⟨fun h => ⟨h.1, h.2⟩, fun h => ⟨h.1, h.2⟩⟩

variable {sessions : List StoredSession} {p : Posting}

/-- Where keys are distinct, the first session with a key is the only one. -/
theorem isSettled_iff (h : (sessions.map fun s => s.attributes.key).Nodup) :
    IsSettled sessions p ↔
      ∃ s ∈ sessions, s.attributes.key = p.session ∧ p.line < s.lines.length := by
  constructor
  · rintro ⟨s, hs, hline⟩
    exact ⟨s, List.mem_of_find?_eq_some hs, by simpa using List.find?_some hs, hline⟩
  · rintro ⟨s, hs, hkey, hline⟩
    cases hfind : sessions.find? fun s => s.attributes.key == p.session with
    | none => exact absurd (List.find?_eq_none.1 hfind s hs) (by simp [hkey])
    | some t =>
        have ht : t.attributes.key = p.session := by simpa using List.find?_some hfind
        have same : t = s :=
          List.inj_on_of_nodup_map h (List.mem_of_find?_eq_some hfind) hs (ht.trans hkey.symm)
        exact ⟨t, hfind, same ▸ hline⟩

theorem inconsistency?_eq_none_iff_isConsistent {d : Stored} :
    d.inconsistency? = none ↔ d.IsConsistent := by
  have distinct : (d.sessions.map fun s => s.attributes.key).Nodup ↔
      d.sessions.Pairwise fun s t => s.attributes.key ≠ t.attributes.key := by
    rw [List.nodup_iff_pairwise_ne, List.pairwise_map]
  rw [inconsistency?_eq_none_iff]
  constructor
  · rintro ⟨hnodup, hsettled⟩
    exact ⟨distinct.1 hnodup, fun e he p hp => (isSettled_iff hnodup).1 (hsettled e he p hp)⟩
  · rintro ⟨hdistinct, hsettled⟩
    have hnodup := distinct.2 hdistinct
    exact ⟨hnodup, fun e he p hp => (isSettled_iff hnodup).2 (hsettled e he p hp)⟩

/-- **The accepted forms are the consistent ones.** -/
theorem exists_index_iff {d : Stored} : (∃ x, d.index = .ok x) ↔ d.IsConsistent := by
  rw [← inconsistency?_eq_none_iff_isConsistent, index]
  cases d.inconsistency? with
  | none => simp
  | some fault => simp

/-! ### The written text -/

/-- The stored form of a text. -/
def ofText? (t : Text) : Option Stored :=
  let r := Json.readText t
  if r.ends then ofJson? 0 r.value else none

/-- Whether the written text of a stored form is read as that form. -/
def ReadsBack (d : Stored) : Prop := ofText? d.toJson.compact = some d

/-- The text of a stored form is always read as its value. -/
theorem ofText?_compact (d : Stored) : ofText? d.toJson.compact = ofJson? 0 d.toJson := by
  rw [ofText?, Json.readText, Json.read_compact d.isWritable_toJson]
  rfl

/-- **A stored form reads back** when each of its numbers does. -/
theorem Fits.readsBack {d : Stored} (h : d.Fits) : d.ReadsBack := by
  rw [ReadsBack, ofText?_compact, h.ofJson?_toJson]

end Stored

namespace Index

theorem deserialize_eq (t : Text) :
    deserialize t =
      match Stored.ofText? t with
      | none => .error .malformed
      | some d => d.index.mapError .inconsistent := rfl

theorem exists_index_of_deserialize {t : Text} {x : Index} (h : deserialize t = .ok x) :
    ∃ d : Stored, d.index = .ok x := by
  rw [deserialize_eq] at h
  cases hd : Stored.ofText? t with
  | none => rw [hd] at h; cases h
  | some d =>
      rw [hd] at h
      change d.index.mapError DecodeError.inconsistent = .ok x at h
      cases hx : d.index with
      | error fault => rw [hx] at h; cases h
      | ok y =>
          rw [hx] at h
          cases h
          exact ⟨d, hx⟩

/-! ### What happens to an index -/

/-- The indexes that come about. -/
inductive Attainable : Index → Prop where
  /-- An index begins with nothing. -/
  | empty (rule : TermRule) : Attainable (empty rule)
  /-- Or with a stored form that is accepted. -/
  | stored {d : Stored} {x : Index} (h : d.index = .ok x) : Attainable x
  /-- It is changed. -/
  | change {x : Index} (h : Attainable x) (c : Change) : Attainable (x.change c)
  /-- It is written as a text, and the text is read. -/
  | reread {x y : Index} (h : Attainable x) (hy : deserialize x.serialize = .ok y) : Attainable y

theorem Linked.change {x : Index} (h : x.Linked) (c : Change) : (x.change c).Linked := by
  cases c with
  | build batch => exact linked_build x.rule batch
  | merge batch => exact h.merge batch
  | remove k => exact h.erase k

theorem occurrences_of_mem {x : Index} {e : Text × List Posting} (he : e ∈ x.postings.toList) :
    x.occurrences e.1 = e.2 := by
  rw [occurrences, (SortedMap.get?_eq_some_iff x.postings e.1 e.2).2 he, Option.getD_some]

/-- **The parts of an index agree**, however it came about. -/
theorem Attainable.linked {x : Index} (h : x.Attainable) : x.Linked := by
  induction h with
  | empty rule => exact linked_empty rule
  | stored h => exact Stored.linked_of_index h
  | change _ c ih => exact ih.change c
  | reread _ hy _ =>
      obtain ⟨d, hd⟩ := exists_index_of_deserialize hy
      exact Stored.linked_of_index hd

/-- **Postings and sessions stay linked.**  A stored form is accepted just when no two of its
sessions have one key and every occurrence names a session of it and a line of that session.  In
an index that came about from such a form, or from nothing, every occurrence is in a line of an
indexed session, and the terms of a session are the terms that occur in it.  After the removal of a
session no list names it; the other sessions keep their attributes, lines and terms, and the lists
keep the occurrences in other sessions, in their order. -/
theorem attainable_isLinked :
    (∀ d : Stored, (∃ x, d.index = .ok x) ↔ d.IsConsistent) ∧
    ∀ x : Index, x.Attainable →
      (∀ e ∈ x.postings.toList, ∀ p ∈ e.2,
        ∃ s, x.sessions.get? p.session = some s ∧ p.line < s.lines.length) ∧
      (∀ k s, x.sessions.get? k = some s →
        ∀ term, s.terms.contains term = true ↔ ∃ p ∈ x.occurrences term, p.session = k) ∧
      ∀ k, (∀ e ∈ (x.erase k).postings.toList, ∀ p ∈ e.2, p.session ≠ k) ∧
        (x.erase k).sessions.get? k = none ∧
        (∀ a, a ≠ k → (x.erase k).sessions.get? a = x.sessions.get? a) ∧
        ∀ term, (x.erase k).occurrences term =
          (x.occurrences term).filter fun p => p.session ≠ k := by
  refine ⟨fun d => Stored.exists_index_iff, fun x hx => ?_⟩
  have h := hx.linked
  have left : ∀ k term, (x.erase k).occurrences term =
      (x.occurrences term).filter fun p => p.session ≠ k := fun k term => by
    rw [h.occurrences_erase]
    exact List.filter_congr fun p _ => by rw [Bool.eq_iff_iff, bne_iff_ne, decide_eq_true_iff]
  refine ⟨fun e he p hp => h.posting ((occurrences_of_mem he).symm ▸ hp),
    fun k s hs => h.terms hs, fun k => ⟨fun e he p hp => ?_, ?_, fun a ha => ?_, left k⟩⟩
  · rw [← occurrences_of_mem he, left, List.mem_filter, decide_eq_true_iff] at hp
    exact hp.2
  · rw [sessions_erase, if_pos rfl]
  · rw [sessions_erase, if_neg ha]

/-- A stored form with a term that its line does not have, listed twice, and an empty list. -/
def handwritten : Stored :=
  ⟨2, [⟨⟨2024, 1, none⟩, [⟨"swift".toList, ⟨0⟩⟩]⟩],
    .ofList [("ghost".toList, [⟨⟨2024, 1⟩, 0, ⟨0⟩⟩, ⟨⟨2024, 1⟩, 0, ⟨0⟩⟩]), ("idle".toList, [])]⟩

/-- The transcript of another session. -/
def another : Transcript := ⟨2024, 2, some "Tools".toList, [⟨"a ghost".toList, ⟨0⟩⟩]⟩

/-- A handwritten form is accepted, and the removal of its session clears what was odd. -/
theorem handwritten_isLinked :
    ∃ x, handwritten.index = .ok x ∧
      ∀ e ∈ ((x.merge [another]).erase ⟨2024, 1⟩).postings.toList, ∀ p ∈ e.2,
        p.session ≠ ⟨2024, 1⟩ := by
  obtain ⟨x, hx⟩ := (attainable_isLinked.1 handwritten).2 (by decide)
  have merged : (x.merge [another]).Attainable := (Attainable.stored hx).change (.merge [another])
  exact ⟨x, hx, ((attainable_isLinked.2 _ merged).2.2 ⟨2024, 1⟩).1⟩

/-- **Writing loses nothing.**  The stored form of an index that came about is accepted, and gives
the index back; so does the text of the index when it is read as the form that was written. -/
theorem Attainable.reread_eq {x : Index} (h : x.Attainable) :
    x.stored.index = .ok x ∧ (x.stored.ReadsBack → deserialize x.serialize = .ok x) := by
  refine ⟨h.linked.index_stored, fun hback => ?_⟩
  rw [deserialize_eq, serialize, show Stored.ofText? _ = _ from hback]
  exact congrArg (Except.mapError _) h.linked.index_stored

/-- A handwritten form that has been changed is read as it was written. -/
theorem handwritten_reread_eq :
    ∃ x, handwritten.index = .ok x ∧
      deserialize (x.merge [another]).serialize = .ok (x.merge [another]) := by
  refine ⟨⟨.ofMinLength 2, handwritten.postings,
    .ofList (handwritten.sessions.map handwritten.entry)⟩, by decide, ?_⟩
  refine (Attainable.reread_eq (.change (.stored (d := handwritten) ?_) (.merge [another]))).2 ?_
  · decide
  · exact Stored.Fits.readsBack ⟨by decide, by decide, by decide⟩

end Index

end TranscriptSearch
