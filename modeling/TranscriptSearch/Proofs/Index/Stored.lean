import TranscriptSearch.Index.Stored
import TranscriptSearch.Proofs.Index.Linked

/-!
# Index — the stored form of an index

The terms of the sessions are not written, and are found again in the occurrences.

* `linked_of_index`: what is read is linked, whatever was written.
* `Index.Linked.index_stored`: a linked index is read as it was written.
-/

namespace TranscriptSearch

namespace Stored

/-! ### A form whose parts agree -/

theorem firstRepeat_eq_none_iff {seen keys : List SessionKey} :
    firstRepeat seen keys = none ↔ keys.Nodup ∧ ∀ k ∈ keys, k ∉ seen := by
  induction keys generalizing seen with
  | nil => simp [firstRepeat]
  | cons k keys ih =>
      rw [firstRepeat, List.nodup_cons, List.forall_mem_cons]
      by_cases h : k ∈ seen
      · simp [h]
      · simp only [List.contains_iff_mem, h, if_false, ih, List.mem_cons, not_or]
        constructor
        · rintro ⟨hnodup, hnew⟩
          exact ⟨⟨fun hk => (hnew k hk).1 rfl, hnodup⟩, not_false, fun a ha => (hnew a ha).2⟩
        · rintro ⟨⟨hk, hnodup⟩, -, hnew⟩
          exact ⟨hnodup, fun a ha => ⟨fun e => hk (e ▸ ha), hnew a ha⟩⟩

/-- Every occurrence is in a line of the first session with its key. -/
def IsSettled (sessions : List StoredSession) (p : Posting) : Prop :=
  ∃ s, sessions.find? (fun s => s.attributes.key == p.session) = some s ∧ p.line < s.lines.length

theorem postingFault?_eq_none_iff {sessions : List StoredSession} {term : Text} {p : Posting} :
    postingFault? sessions term p = none ↔ IsSettled sessions p := by
  rw [postingFault?, IsSettled]
  cases sessions.find? fun s => s.attributes.key == p.session with
  | none => simp
  | some s => simp

theorem inconsistency?_eq_none_iff {d : Stored} :
    d.inconsistency? = none ↔
      (d.sessions.map fun s => s.attributes.key).Nodup ∧
      ∀ e ∈ d.postings.toList, ∀ p ∈ e.2, IsSettled d.sessions p := by
  rw [inconsistency?]
  cases hr : firstRepeat [] (d.sessions.map fun s => s.attributes.key) with
  | some k =>
      simp only [reduceCtorEq, false_iff, not_and]
      intro hnodup
      rw [firstRepeat_eq_none_iff.2 ⟨hnodup, by simp⟩] at hr
      cases hr
  | none =>
      simp only [List.findSome?_eq_none_iff, postingFault?_eq_none_iff,
        (firstRepeat_eq_none_iff.1 hr).1, true_and]

theorem contains_termsOf (d : Stored) (k : SessionKey) (term : Text) :
    (d.termsOf k).contains term = true ↔
      ∃ p ∈ (d.postings.get? term).getD [], p.session = k := by
  rw [termsOf, SortedSet.contains_ofList, List.mem_map]
  simp only [List.mem_filter, List.any_eq_true, beq_iff_eq, Prod.exists]
  constructor
  · rintro ⟨term, l, ⟨hl, hp⟩, rfl⟩
    rwa [(SortedMap.get?_eq_some_iff d.postings term l).2 hl]
  · intro h
    cases hl : d.postings.get? term with
    | none => rw [hl] at h; simp at h
    | some l =>
        rw [hl] at h
        exact ⟨term, l, ⟨(SortedMap.get?_eq_some_iff d.postings term l).1 hl, h⟩, rfl⟩

/-! ### Reading -/

theorem map_fst_entry (d : Stored) :
    (d.sessions.map d.entry).map Prod.fst = d.sessions.map fun s => s.attributes.key := by
  rw [List.map_map]
  rfl

/-- **What is read is linked.** -/
theorem linked_of_index {d : Stored} {x : Index} (h : d.index = .ok x) : x.Linked := by
  rw [index] at h
  split at h
  next => cases h
  next hd =>
    obtain ⟨hnodup, hsettled⟩ := inconsistency?_eq_none_iff.1 hd
    cases h
    refine ⟨fun {k s} hs => ?_, fun {term p} hp => ?_, fun {k s} hs term => ?_⟩
    · obtain ⟨s', -, h'⟩ := List.mem_map.1 (SortedMap.mem_of_get?_ofList hs)
      cases h'
      rfl
    · obtain ⟨l, hl, hpl⟩ : ∃ l, d.postings.get? term = some l ∧ p ∈ l := by
        rw [Index.occurrences] at hp
        cases hl : d.postings.get? term with
        | none => rw [hl] at hp; cases hp
        | some l => rw [hl] at hp; exact ⟨l, rfl, hp⟩
      -- `inconsistency?` has looked up every session and line that an occurrence names
      obtain ⟨s, hfind, hline⟩ :=
        hsettled _ ((SortedMap.get?_eq_some_iff d.postings term l).1 hl) p hpl
      have hkey : s.attributes.key = p.session := by simpa using List.find?_some hfind
      refine ⟨(d.entry s).2, ?_, hline⟩
      rw [← hkey]
      refine (SortedMap.get?_ofList_eq_some_iff ?_ _ _).2
        (List.mem_map_of_mem (List.mem_of_find?_eq_some hfind))
      rwa [map_fst_entry]
    · obtain ⟨s', -, h'⟩ := List.mem_map.1 (SortedMap.mem_of_get?_ofList hs)
      cases h'
      exact contains_termsOf d _ term

end Stored

/-! ### Writing and reading -/

namespace Index

open Stored

variable {x : Index}

theorem map_key_stored (h : x.Linked) :
    (x.stored.sessions.map fun s => s.attributes.key) = x.sessions.keys := by
  rw [stored, SortedMap.values, List.map_map, List.map_map, SortedMap.keys]
  exact List.map_congr_left fun e he => h.key ((SortedMap.get?_eq_some_iff _ e.1 e.2).2 he)

theorem mem_sessions_stored {s : StoredSession} :
    s ∈ x.stored.sessions ↔
      ∃ k s', x.sessions.get? k = some s' ∧ s = ⟨s'.attributes, s'.lines⟩ := by
  simp only [stored, SortedMap.values, List.map_map, List.mem_map, Function.comp_apply,
    Prod.exists, SortedMap.get?_eq_some_iff]
  exact exists_congr fun k => exists_congr fun s' => and_congr_right fun _ => eq_comm

theorem ofMinLength_minLength (rule : TermRule) : TermRule.ofMinLength rule.minLength = rule := by
  obtain ⟨n, hn⟩ := rule
  simp only [TermRule.ofMinLength, TermRule.mk.injEq]
  exact Nat.max_eq_left hn

theorem Linked.inconsistency?_stored (h : x.Linked) : x.stored.inconsistency? = none := by
  have hnodup : (x.stored.sessions.map fun s => s.attributes.key).Nodup := by
    rw [map_key_stored h]
    exact x.sessions.nodup_keys
  refine inconsistency?_eq_none_iff.2 ⟨hnodup, fun e he p hp => ?_⟩
  have hget := (SortedMap.get?_eq_some_iff x.postings e.1 e.2).2 he
  have hp' : p ∈ x.occurrences e.1 := by rw [occurrences, hget]; exact hp
  obtain ⟨s, hs, hline⟩ := h.posting hp'
  have hmem : (⟨s.attributes, s.lines⟩ : StoredSession) ∈ x.stored.sessions :=
    mem_sessions_stored.2 ⟨_, s, hs, rfl⟩
  -- the first session with the key is the one that the occurrence is in: there is no other
  cases hfind : x.stored.sessions.find? fun s => s.attributes.key == p.session with
  | none => exact absurd (List.find?_eq_none.1 hfind _ hmem) (by simp [h.key hs])
  | some s' =>
      have hkey : s'.attributes.key = p.session := by simpa using List.find?_some hfind
      have hsame := List.inj_on_of_nodup_map hnodup (List.mem_of_find?_eq_some hfind) hmem
        (hkey.trans (h.key hs).symm)
      exact ⟨s', hfind, hsame ▸ hline⟩

/-- **A linked index is read as it was written.** -/
theorem Linked.index_stored (h : x.Linked) : x.stored.index = .ok x := by
  have sessions : SortedMap.ofList (x.stored.sessions.map x.stored.entry) = x.sessions := by
    -- the terms of a session are not stored but collected from the occurrences
    have terms : ∀ {k s}, x.sessions.get? k = some s → x.stored.termsOf k = s.terms :=
      fun {k s} hs => SortedSet.ext_contains fun term => by
        rw [contains_termsOf, h.terms hs]
        rfl
    refine SortedMap.ext_get? fun k => Option.ext fun s => ?_
    rw [SortedMap.get?_ofList_eq_some_iff, List.mem_map]
    · constructor
      · rintro ⟨s', hs', e⟩
        obtain ⟨k', s'', hget, rfl⟩ := mem_sessions_stored.1 hs'
        cases e
        rw [h.key hget, hget, terms hget]
      · intro hs
        refine ⟨⟨s.attributes, s.lines⟩, mem_sessions_stored.2 ⟨k, s, hs, rfl⟩, ?_⟩
        rw [entry, h.key hs, terms hs]
    · rw [map_fst_entry, map_key_stored h]
      exact x.sessions.nodup_keys
  rw [Stored.index, h.inconsistency?_stored]
  refine congrArg Except.ok ?_
  rw [sessions]
  exact congrArg (Index.mk · x.postings x.sessions) (ofMinLength_minLength x.rule)

end Index

end TranscriptSearch
