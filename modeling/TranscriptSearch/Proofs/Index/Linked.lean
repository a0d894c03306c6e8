import Mathlib.Data.List.Basic
import TranscriptSearch.Index.Build
import TranscriptSearch.Proofs.SortedMap

/-!
# Index — postings and sessions are linked

An index keeps what it knows of a session in three places: the occurrences of terms, the set of
terms of the session, and its lines.  `Linked` says that the three agree.  Removal relies on it:
it visits only the terms that the session records, and these are all the terms that occur in it.

* `Linked.empty`, `Linked.erase`, `Linked.reindex`, `Linked.merge`, `Linked.build`: the empty
  index is linked, and every operation keeps an index linked.
* `Linked.occurrences_erase`: removal takes every occurrence of the session and no other.
* `occurrences_insert`: a new session's occurrences come after those that are there.
* `Tidy`: no term has an empty list; `Tidy.get?` gives the lists by the occurrences.
-/

namespace TranscriptSearch

open Std

/-- The occurrences of a term in a transcript, in the order of the lines: one for each time that
the line has the term. -/
def TermRule.postingsOf (rule : TermRule) (term : Text) (t : Transcript) : List Posting :=
  t.lines.zipIdx.flatMap fun p =>
    List.replicate ((rule.terms p.1.text).count term) ⟨t.key, p.2, p.1.timecode⟩

/-! ### The occurrences of a transcript -/

namespace TermRule

variable {rule : TermRule} {term : Text} {t : Transcript}

theorem map_snd_filter_map_const {α β : Type*} [BEq α] [LawfulBEq α] [DecidableEq α] (l : List α)
    (a : α) (b : β) :
    ((l.map fun c => (c, b)).filter fun o => o.1 = a).map Prod.snd =
      List.replicate (l.count a) b := by
  induction l with
  | nil => rfl
  | cons c l ih =>
      by_cases h : c = a
      · subst h; simpa [List.replicate_succ] using ih
      · simpa [h, List.count_cons_of_ne h] using ih

/-- What is recorded of a transcript under a term. -/
theorem occurrences_filter (rule : TermRule) (term : Text) (t : Transcript) :
    ((rule.occurrences t).filter fun o => o.1 = term).map Prod.snd = rule.postingsOf term t := by
  rw [occurrences, postingsOf, List.filter_flatMap, List.map_flatMap]
  exact congrArg (List.flatMap · _) (funext fun p => map_snd_filter_map_const _ _ _)

theorem mem_postingsOf {p : Posting} :
    p ∈ rule.postingsOf term t ↔
      ∃ l, t.lines[p.line]? = some l ∧ term ∈ rule.terms l.text ∧
        p = ⟨t.key, p.line, l.timecode⟩ := by
  simp only [postingsOf, List.mem_flatMap, Prod.exists, List.mem_zipIdx_iff_getElem?,
    List.mem_replicate, ne_eq, List.count_eq_zero, not_not]
  constructor
  · rintro ⟨l, n, hl, hterm, rfl⟩
    exact ⟨l, hl, hterm, rfl⟩
  · rintro ⟨l, hl, hterm, hp⟩
    exact ⟨l, p.line, hl, hterm, hp⟩

theorem session_of_mem_postingsOf {p : Posting} (h : p ∈ rule.postingsOf term t) :
    p.session = t.key := by
  obtain ⟨l, -, -, hp⟩ := mem_postingsOf.1 h
  rw [hp]

/-- The occurrences of a transcript stand or fall together when sessions are picked. -/
theorem filter_postingsOf (rule : TermRule) (term : Text) (pick : SessionKey → Bool)
    (t : Transcript) :
    (rule.postingsOf term t).filter (fun p => pick p.session) =
      if pick t.key then rule.postingsOf term t else [] := by
  by_cases h : pick t.key = true
  · rw [if_pos h]
    exact List.filter_eq_self.2 fun p hp => by rw [session_of_mem_postingsOf hp, h]
  · rw [if_neg h]
    exact List.filter_eq_nil_iff.2 fun p hp => by rwa [session_of_mem_postingsOf hp]

/-- To pick sessions among the occurrences of some transcripts is to pick the transcripts. -/
theorem filter_flatMap_postingsOf (rule : TermRule) (term : Text) (pick : SessionKey → Bool)
    (ts : List Transcript) :
    (ts.flatMap (rule.postingsOf term)).filter (fun p => pick p.session) =
      (ts.filter fun t => pick t.key).flatMap (rule.postingsOf term) := by
  induction ts with
  | nil => rfl
  | cons t ts ih =>
      rw [List.flatMap_cons, List.filter_append, filter_postingsOf, ih, List.filter_cons]
      split
      · rfl
      · rfl

theorem postingsOf_ne_nil_iff :
    rule.postingsOf term t ≠ [] ↔ ∃ l ∈ t.lines, term ∈ rule.terms l.text := by
  constructor
  · intro h
    obtain ⟨p, hp⟩ := List.exists_mem_of_ne_nil _ h
    obtain ⟨l, hl, hterm, -⟩ := mem_postingsOf.1 hp
    exact ⟨l, List.mem_of_getElem? hl, hterm⟩
  · rintro ⟨l, hl, hterm⟩
    obtain ⟨n, hn⟩ := List.getElem?_of_mem hl
    exact List.ne_nil_of_mem (mem_postingsOf.2 ⟨l, hn, hterm, rfl⟩ : ⟨t.key, n, l.timecode⟩ ∈ _)

theorem map_fst_occurrences (rule : TermRule) (t : Transcript) :
    (rule.occurrences t).map Prod.fst = t.lines.flatMap fun l => rule.terms l.text := by
  rw [occurrences, List.map_flatMap]
  simp only [List.map_map, Function.comp_def, List.map_id']
  rw [← List.flatMap_map (f := Prod.fst) (g := fun l : Line => rule.terms l.text),
    List.zipIdx_map_fst]

end TermRule

namespace Index

/-! ### Recording and forgetting -/

/-- A list as an entry of the index: there is no entry for an empty list. -/
def nonempty? (l : List Posting) : Option (List Posting) := if l = [] then none else some l

@[simp] theorem getD_nonempty? (l : List Posting) : (nonempty? l).getD [] = l := by
  by_cases h : l = [] <;> simp [nonempty?, h]

theorem nonempty?_ne_nil (l : List Posting) : nonempty? l ≠ some [] := by
  by_cases h : l = [] <;> simp [nonempty?, h]

/-- What is left of an entry without the occurrences of a session. -/
def without (k : SessionKey) (l : List Posting) : Option (List Posting) :=
  nonempty? (l.filter fun p => p.session != k)

theorem getD_without (k : SessionKey) (l : List Posting) :
    (without k l).getD [] = l.filter fun p => p.session != k := getD_nonempty? _

theorem without_without (k : SessionKey) (l : List Posting) :
    (without k l).bind (without k) = without k l := by
  rw [without, nonempty?]
  split
  · rfl
  · rw [Option.bind_some, without, List.filter_filter]
    simp only [Bool.and_self]
    rw [nonempty?, if_neg ‹_›]

theorem get?_foldl_record (os : List (Text × Posting)) (m : SortedMap Text (List Posting))
    (term : Text) :
    (os.foldl record m).get? term =
      match (os.filter fun o => o.1 = term).map Prod.snd with
      | [] => m.get? term
      | new => some ((m.get? term).getD [] ++ new) := by
  induction os generalizing m with
  | nil => rfl
  | cons o os ih =>
      rw [List.foldl_cons, ih, record, SortedMap.get?_insert]
      by_cases h : o.1 = term
      · subst h
        simp only [List.filter_cons, decide_true, if_true, List.map_cons, Option.getD_some]
        cases (os.filter fun o' => o'.1 = o.1).map Prod.snd with
        | nil => rfl
        | cons p ps => simp
      · simp [h, Ne.symm h]

theorem get?_forget (k : SessionKey) (m : SortedMap Text (List Posting)) (term a : Text) :
    (forget k m term).get? a = if a = term then (m.get? a).bind (without k) else m.get? a := by
  rw [forget]
  by_cases h : a = term
  · subst h
    rw [if_pos rfl]
    cases hm : m.get? a with
    | none => exact hm
    -- a term without occurrences is taken out, which is how the index stays tidy
    | some l =>
        simp only [Option.bind_some, without, nonempty?]
        split <;> rename_i hl
        · rw [SortedMap.get?_erase, if_pos rfl, if_pos hl]
        · rw [SortedMap.get?_insert, if_pos rfl, if_neg hl]
  · rw [if_neg h]
    cases m.get? term with
    | none => rfl
    | some l =>
        simp only
        split
        · rw [SortedMap.get?_erase, if_neg h]
        · rw [SortedMap.get?_insert, if_neg h]

/-- Forgetting the same term twice is forgetting it once. -/
theorem get?_foldl_forget (k : SessionKey) (terms : List Text) (m : SortedMap Text (List Posting))
    (a : Text) :
    (terms.foldl (forget k) m).get? a =
      if a ∈ terms then (m.get? a).bind (without k) else m.get? a := by
  induction terms generalizing m with
  | nil => simp
  | cons term terms ih =>
      rw [List.foldl_cons, ih, get?_forget]
      by_cases h : a = term
      · subst h
        simp only [if_true, List.mem_cons_self]
        cases m.get? a with
        | none => simp
        | some l => simp only [Option.bind_some, without_without, ite_self]
      · simp only [h, if_false, List.mem_cons, false_or]

/-! ### The invariant -/

/-- The occurrences, the sets of terms and the lines of an index agree. -/
structure Linked (x : Index) : Prop where
  /-- A session stands under its own key. -/
  key : ∀ {k s}, x.sessions.get? k = some s → s.attributes.key = k
  /-- Every occurrence is in a line of a session. -/
  posting : ∀ {term p}, p ∈ x.occurrences term →
    ∃ s, x.sessions.get? p.session = some s ∧ p.line < s.lines.length
  /-- The terms of a session are the terms that occur in it. -/
  terms : ∀ {k s}, x.sessions.get? k = some s →
    ∀ term, s.terms.contains term = true ↔ ∃ p ∈ x.occurrences term, p.session = k

/-- No term has an empty list of occurrences. -/
def Tidy (x : Index) : Prop := ∀ term, x.postings.get? term ≠ some []

theorem Tidy.get? {x : Index} (h : x.Tidy) (term : Text) :
    x.postings.get? term = nonempty? (x.occurrences term) := by
  rw [occurrences]
  cases hm : x.postings.get? term with
  | none => rfl
  | some l => rw [Option.getD_some, nonempty?, if_neg fun e : l = [] => h term (e ▸ hm)]

/-! ### One session more, one session less -/

theorem occurrences_insert (x : Index) (t : Transcript) (term : Text) :
    (x.insert t).occurrences term = x.occurrences term ++ x.rule.postingsOf term t := by
  rw [occurrences, occurrences, insert, get?_foldl_record, TermRule.occurrences_filter]
  cases x.rule.postingsOf term t with
  | nil => rw [List.append_nil]
  | cons p ps => rfl

theorem tidy_insert {x : Index} (h : x.Tidy) (t : Transcript) : (x.insert t).Tidy := by
  intro term
  rw [insert, get?_foldl_record]
  split
  · exact h term
  · simp_all

theorem sessions_insert (x : Index) (t : Transcript) (k : SessionKey) :
    (x.insert t).sessions.get? k =
      if k = t.key then some (sessionOf x.rule t) else x.sessions.get? k :=
  SortedMap.get?_insert ..

theorem contains_terms_sessionOf (rule : TermRule) (t : Transcript) (term : Text) :
    (sessionOf rule t).terms.contains term = true ↔ rule.postingsOf term t ≠ [] := by
  rw [sessionOf, SortedSet.contains_ofList, TermRule.map_fst_occurrences, List.mem_flatMap,
    TermRule.postingsOf_ne_nil_iff]

theorem rule_erase (x : Index) (k : SessionKey) : (x.erase k).rule = x.rule := by
  rw [erase]; split <;> rfl

theorem sessions_erase (x : Index) (k a : SessionKey) :
    (x.erase k).sessions.get? a = if a = k then none else x.sessions.get? a := by
  rw [erase]
  split
  · by_cases h : a = k
    · subst h; rwa [if_pos rfl]
    · rw [if_neg h]
  · exact SortedMap.get?_erase ..

theorem tidy_erase {x : Index} (h : x.Tidy) (k : SessionKey) : (x.erase k).Tidy := by
  intro term
  rw [erase]
  split
  · exact h term
  · rw [get?_foldl_forget]
    split
    · cases x.postings.get? term with
      | none => exact fun e => by cases e
      | some l => exact nonempty?_ne_nil _
    · exact h term

namespace Linked

variable {x : Index}

/-- **Removal is complete.**  It takes every occurrence of the session and no other. -/
theorem occurrences_erase (h : x.Linked) (k : SessionKey) (term : Text) :
    (x.erase k).occurrences term = (x.occurrences term).filter fun p => p.session != k := by
  -- a term is left alone when none of its occurrences lies in the session
  have keep : (∀ p ∈ x.occurrences term, p.session ≠ k) →
      x.occurrences term = (x.occurrences term).filter fun p => p.session != k := fun hne =>
    (List.filter_eq_self.2 fun p hp => by simpa using hne p hp).symm
  rw [erase]
  split
  next hk =>
    refine keep fun p hp e => ?_
    obtain ⟨s, hs, -⟩ := h.posting hp
    rw [e, hk] at hs
    cases hs
  next s hs =>
    rw [occurrences, get?_foldl_forget]
    by_cases hterm : term ∈ s.terms.elements
    · rw [if_pos hterm, occurrences]
      cases x.postings.get? term with
      | none => rfl
      | some l => exact getD_without k l
    · rw [if_neg hterm]
      refine keep fun p hp e => hterm ?_
      exact (SortedSet.mem_elements ..).2 ((h.terms hs term).2 ⟨p, hp, e⟩)

theorem occurrences_reindex (h : x.Linked) (t : Transcript) (term : Text) :
    (x.reindex t).occurrences term =
      ((x.occurrences term).filter fun p => p.session != t.key) ++ x.rule.postingsOf term t := by
  rw [reindex, occurrences_insert, h.occurrences_erase, rule_erase]

end Linked

theorem rule_reindex (x : Index) (t : Transcript) : (x.reindex t).rule = x.rule :=
  rule_erase x t.key

theorem sessions_reindex (x : Index) (t : Transcript) (k : SessionKey) :
    (x.reindex t).sessions.get? k =
      if k = t.key then some (sessionOf x.rule t) else x.sessions.get? k := by
  rw [reindex, sessions_insert, sessions_erase, rule_erase]
  by_cases h : k = t.key
  · rw [if_pos h, if_pos h]
  · rw [if_neg h, if_neg h, if_neg h]

theorem rule_merge (x : Index) (batch : List Transcript) : (x.merge batch).rule = x.rule := by
  rw [merge]
  induction Batch.accepted batch generalizing x with
  | nil => rfl
  | cons t ts ih => rw [List.foldl_cons, ih, rule_reindex]

/-! ### The invariant is kept -/

theorem linked_empty (rule : TermRule) : (empty rule).Linked where
  key h := by cases h
  posting h := by cases h
  terms h := by cases h

theorem Linked.erase {x : Index} (h : x.Linked) (k : SessionKey) : (x.erase k).Linked where
  key {a s} hs := by
    rw [sessions_erase] at hs
    split at hs
    · cases hs
    · exact h.key hs
  posting {term p} hp := by
    rw [h.occurrences_erase, List.mem_filter, bne_iff_ne] at hp
    rw [sessions_erase, if_neg hp.2]
    exact h.posting hp.1
  terms {a s} hs term := by
    rw [sessions_erase] at hs
    split at hs
    next => cases hs
    next hne =>
      rw [h.terms hs term, h.occurrences_erase]
      constructor
      · rintro ⟨p, hp, rfl⟩
        exact ⟨p, List.mem_filter.2 ⟨hp, bne_iff_ne.2 hne⟩, rfl⟩
      · rintro ⟨p, hp, rfl⟩
        exact ⟨p, (List.mem_filter.1 hp).1, rfl⟩

theorem Linked.reindex {x : Index} (h : x.Linked) (t : Transcript) : (x.reindex t).Linked where
  key {k s} hs := by
    rw [sessions_reindex] at hs
    split at hs
    next e => cases hs; exact e.symm
    next => exact h.key hs
  posting {term p} hp := by
    rw [h.occurrences_reindex, List.mem_append, List.mem_filter, bne_iff_ne] at hp
    rw [sessions_reindex]
    rcases hp with ⟨hp, hne⟩ | hp
    · rw [if_neg hne]
      exact h.posting hp
    · obtain ⟨l, hl, -, -⟩ := TermRule.mem_postingsOf.1 hp
      rw [if_pos (TermRule.session_of_mem_postingsOf hp)]
      exact ⟨_, rfl, (List.getElem?_eq_some_iff.1 hl).1⟩
  terms {k s} hs term := by
    rw [sessions_reindex] at hs
    rw [h.occurrences_reindex]
    simp only [List.mem_append, List.mem_filter, bne_iff_ne]
    split at hs
    next e =>
      -- the session is the new one: its terms are those of the transcript
      cases hs
      rw [contains_terms_sessionOf]
      constructor
      · intro hne
        obtain ⟨p, hp⟩ := List.exists_mem_of_ne_nil _ hne
        exact ⟨p, .inr hp, (TermRule.session_of_mem_postingsOf hp).trans e.symm⟩
      · rintro ⟨p, ⟨-, hne⟩ | hp, hk⟩
        · exact absurd (hk.trans e) hne
        · exact List.ne_nil_of_mem hp
    next hne =>
      rw [h.terms hs term]
      constructor
      · rintro ⟨p, hp, rfl⟩
        exact ⟨p, .inl ⟨hp, hne⟩, rfl⟩
      · rintro ⟨p, ⟨hp, -⟩ | hp, rfl⟩
        · exact ⟨p, hp, rfl⟩
        · exact absurd (TermRule.session_of_mem_postingsOf hp) hne

theorem tidy_reindex {x : Index} (h : x.Tidy) (t : Transcript) : (x.reindex t).Tidy :=
  tidy_insert (tidy_erase h t.key) t

theorem Linked.merge {x : Index} (h : x.Linked) (batch : List Transcript) :
    (x.merge batch).Linked := by
  rw [Index.merge]
  induction Batch.accepted batch generalizing x with
  | nil => exact h
  | cons t ts ih => exact ih (h.reindex t)

theorem linked_build (rule : TermRule) (batch : List Transcript) : (build rule batch).Linked :=
  (linked_empty rule).merge batch

end Index

end TranscriptSearch
