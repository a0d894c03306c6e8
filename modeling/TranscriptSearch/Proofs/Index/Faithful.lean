import TranscriptSearch.Proofs.Index.Attainable
import TranscriptSearch.Proofs.Index.Postings
import TranscriptSearch.Proofs.Index.Scan
import TranscriptSearch.Proofs.Term

/-!
# Index — what is not checked of a stored form

A stored form tells twice which terms its lines have: in the lines themselves, and in the lists of
the terms.  A form is accepted when the lists name lines that are there.  Whether those lines have
the terms is not looked up; the lists are taken as they are, and a search answers from them.

* `Index.SameAnswers`, `Index.SameLists`: two indexes answer alike, and have the same lists.
* `Stored.rebuilt`: the index that is built from the lines of a stored form.
* `Stored.IsTruthful`, `Stored.IsFaithful`: the lists of a form tell what its lines do, to one who
  searches, and to one who looks at the lists.
* `Index.sameAnswers_iff`: answers and occurrences tell the same.
* `Stored.isFaithful_stored`: what is written of an index that was built is faithful.
* `Stored.accepted_as_rebuilt`: which accepted forms are as good as the index that is rebuilt.
-/

namespace TranscriptSearch

open Text

/-- Some text has the term. -/
def TermRule.IsSearchable (rule : TermRule) (term : Text) : Prop := ∃ t, term ∈ rule.terms t

/-- A term that can be searched for can be searched for alone. -/
theorem TermRule.IsSearchable.exists_terms_eq {rule : TermRule} {term : Text}
    (h : rule.IsSearchable term) : ∃ t, rule.terms t = [term] := by
  obtain ⟨t, ht⟩ := h
  obtain ⟨w, hw, rfl⟩ := List.mem_map.1 ht
  obtain ⟨hw, hlength⟩ := List.mem_filter.1 hw
  obtain ⟨hne, hall⟩ := of_mem_runs hw
  refine ⟨w, ?_⟩
  rw [terms, runs_of_all hne fun c hc => (hall c hc).2, List.filter_cons, if_pos hlength]
  rfl

namespace Index

variable {x y : Index}

/-! ### Answers and occurrences -/

/-- Two indexes answer every question about a session and a query alike. -/
structure SameAnswers (x y : Index) : Prop where
  /-- The same sessions satisfy a query. -/
  satisfies : ∀ k q, x.satisfies k q = y.satisfies k q
  /-- The same lines of them are found. -/
  matchingLines : ∀ k q, x.matchingLines k q = y.matchingLines k q

/-- Two indexes have lists for the same terms, with the same occurrences in some order. -/
def SameLists (x y : Index) : Prop :=
  ∀ term, Option.Rel List.Perm (x.postings.get? term) (y.postings.get? term)

theorem perm_of_rel {a b : Option (List Posting)} (h : Option.Rel List.Perm a b) :
    (a.getD []).Perm (b.getD []) := by
  cases h with
  | none => exact .nil
  | some h => exact h

theorem rel_nonempty? {a b : List Posting} (h : a.Perm b) :
    Option.Rel List.Perm (nonempty? a) (nonempty? b) := by
  rw [nonempty?, nonempty?]
  by_cases ha : a = []
  · subst ha
    rw [List.nil_perm.1 h]
    exact .none
  · have hb : b ≠ [] := fun hb => ha (List.perm_nil.1 (hb ▸ h))
    rw [if_neg ha, if_neg hb]
    exact .some h

/-- The terms of a session are those that occur in some line of it. -/
theorem Linked.contains_terms_iff_positions (h : x.Linked) {k : SessionKey} {s : Session}
    (hs : x.sessions.get? k = some s) (term : Text) :
    s.terms.contains term = true ↔ ∃ n, n ∈ x.positions k term := by
  rw [h.terms hs]
  constructor
  · rintro ⟨p, hp, hk⟩
    exact ⟨p.line, mem_positions.2 ⟨p, hp, hk, rfl⟩⟩
  · rintro ⟨n, hn⟩
    obtain ⟨p, hp, hk, -⟩ := mem_positions.1 hn
    exact ⟨p, hp, hk⟩

/-- The question for one term. -/
def ask (t : Text) : Query := ⟨.empty, t⟩

/-- A session satisfies the question for a term where the term occurs in it. -/
theorem Linked.satisfies_ask (h : x.Linked) {t term : Text} (ht : x.rule.terms t = [term])
    (k : SessionKey) : x.satisfies k (ask t) = true ↔ ∃ n, n ∈ x.positions k term := by
  rw [satisfies]
  cases hs : x.sessions.get? k with
  | none =>
      refine iff_of_false Bool.false_ne_true ?_
      rintro ⟨n, hn⟩
      obtain ⟨p, hp, rfl, -⟩ := mem_positions.1 hn
      obtain ⟨s, hs', -⟩ := h.posting hp
      rw [hs] at hs'
      cases hs'
  | some s =>
      have unqualified : Query.Qualifiers.empty.toList = [] := rfl
      simp only [ask, unqualified, hasTerms, ht, List.all_nil, List.all_cons, Bool.and_true,
        Bool.true_and]
      exact h.contains_terms_iff_positions hs term

/-- The lines that are found for a term are those where it occurs. -/
theorem Linked.mem_matchingLines_ask (h : x.Linked) {t term : Text} (ht : x.rule.terms t = [term])
    (k : SessionKey) (n : Nat) :
    (∃ m ∈ x.matchingLines k (ask t), m.line = n) ↔ n ∈ x.positions k term := by
  have searched : x.searchedTerms (ask t) = [term] := by
    have nothing : x.rule.terms [] = [] := rfl
    rw [searchedTerms, ask, ht]
    exact congrArg ([term] ++ ·) nothing
  rw [matchingLines]
  split
  next hsat =>
    rw [searched]
    simp only [List.mem_filterMap, SortedSet.mem_elements, SortedSet.contains_ofList,
      List.flatMap_cons, List.flatMap_nil, List.append_nil]
    constructor
    · rintro ⟨m, ⟨n', hn', hm⟩, rfl⟩
      obtain ⟨l, -, rfl⟩ := Option.map_eq_some_iff.1 hm
      exact hn'
    · intro hn
      obtain ⟨p, hp, rfl, rfl⟩ := mem_positions.1 hn
      obtain ⟨s, hs, hline⟩ := h.posting hp
      refine ⟨⟨p.line, s.lines[p.line].timecode, s.lines[p.line].text⟩, ⟨p.line, hn, ?_⟩, rfl⟩
      rw [lines?, hs]
      exact congrArg (Option.map _) (List.getElem?_eq_getElem hline)
  next hsat =>
    refine iff_of_false (by rintro ⟨m, ⟨⟩, -⟩) fun hn => hsat ?_
    exact (h.satisfies_ask ht k).2 ⟨n, hn⟩

/-- Who answers alike has the same terms in the same lines, as far as they can be searched for. -/
theorem SameAnswers.mem_positions_iff (h : x.SameAnswers y) (hx : x.Linked) (hy : y.Linked)
    (hrule : x.rule = y.rule) {term : Text} (hterm : x.rule.IsSearchable term) (k : SessionKey)
    (n : Nat) : n ∈ x.positions k term ↔ n ∈ y.positions k term := by
  obtain ⟨t, ht⟩ := hterm.exists_terms_eq
  rw [← hx.mem_matchingLines_ask ht, ← hy.mem_matchingLines_ask (hrule ▸ ht), h.matchingLines]

/-- Who has the same sessions, and the same terms in the same lines, answers alike. -/
theorem sameAnswers_of_positions (hx : x.Linked) (hy : y.Linked) (hrule : x.rule = y.rule)
    (hattributes : ∀ k, x.attributes? k = y.attributes? k) (hlines : ∀ k, x.lines? k = y.lines? k)
    (hpositions : ∀ {term}, x.rule.IsSearchable term → ∀ k n,
      n ∈ x.positions k term ↔ n ∈ y.positions k term) : x.SameAnswers y := by
  have satisfies : ∀ k q, x.satisfies k q = y.satisfies k q := fun k q => by
    have same := hattributes k
    rw [attributes?, attributes?] at same
    rw [Index.satisfies, Index.satisfies]
    cases hs : x.sessions.get? k with
    | none =>
        rw [hs] at same
        rw [Option.map_eq_none_iff.1 same.symm]
    | some s =>
        rw [hs] at same
        obtain ⟨s', hs', hattributes⟩ := Option.map_eq_some_iff.1 same.symm
        have contains : ∀ {term}, x.rule.IsSearchable term →
            (s.terms.contains term = true ↔ s'.terms.contains term = true) := fun {term} hterm => by
          rw [hx.contains_terms_iff_positions hs, hy.contains_terms_iff_positions hs']
          exact exists_congr (hpositions hterm k)
        have hasTerms : ∀ t, x.hasTerms s t = y.hasTerms s' t := fun t => by
          rw [Index.hasTerms, Index.hasTerms, ← hrule, Bool.eq_iff_iff, List.all_eq_true,
            List.all_eq_true]
          exact forall₂_congr fun term hterm => contains ⟨t, hterm⟩
        rw [hs']
        simp only [satisfiesQualifier, hattributes, hasTerms]
  refine ⟨satisfies, fun k q => ?_⟩
  have terms : y.searchedTerms q = x.searchedTerms q := by rw [searchedTerms, searchedTerms, hrule]
  have found : SortedSet.ofList ((x.searchedTerms q).flatMap (x.positions k)) =
      SortedSet.ofList ((x.searchedTerms q).flatMap (y.positions k)) :=
    SortedSet.ext_contains fun n => by
      rw [SortedSet.contains_ofList, SortedSet.contains_ofList, List.mem_flatMap, List.mem_flatMap]
      refine exists_congr fun term => and_congr_right fun hterm => hpositions ?_ k n
      rcases (mem_searchedTerms x q term).1 hterm with h | ⟨value, -, h⟩
      · exact ⟨_, h⟩
      · exact ⟨_, h⟩
  rw [matchingLines, matchingLines, satisfies, terms, found, hlines]

end Index

/-! ### What the lines of a stored form say -/

/-- The transcript of a stored session. -/
def StoredSession.transcript (s : StoredSession) : Transcript :=
  ⟨s.attributes.year, s.attributes.sessionId, s.attributes.track, s.lines⟩

namespace Stored

open Batch
open Index.Log (Distinct)

/-- The rule by which the lines of a stored form are cut. -/
def rule (d : Stored) : TermRule := .ofMinLength d.minLength

/-- The transcripts of the stored sessions. -/
def transcripts (d : Stored) : List Transcript := d.sessions.map StoredSession.transcript

/-- The index that is built from them. -/
def rebuilt (d : Stored) : Index := .build d.rule d.transcripts

/-- The occurrences of a term in their lines. -/
def spoken (d : Stored) (term : Text) : List Posting :=
  d.transcripts.flatMap (d.rule.postingsOf term)

/-- The list of a term has an occurrence in a line of a session. -/
def Lists (d : Stored) (term : Text) (k : SessionKey) (n : Nat) : Prop :=
  ∃ p ∈ (d.postings.get? term).getD [], p.session = k ∧ p.line = n

/-- A line of a session has a term. -/
def Says (d : Stored) (term : Text) (k : SessionKey) (n : Nat) : Prop :=
  ∃ s ∈ d.sessions, s.attributes.key = k ∧ ∃ l, s.lines[n]? = some l ∧ term ∈ d.rule.terms l.text

/-- To one who searches, the lists of a form tell what its lines say. -/
structure IsTruthful (d : Stored) : Prop where
  /-- Every line has a timecode with which it would be indexed. -/
  valid : ∀ t ∈ d.transcripts, isValid t = true
  /-- A term that can be searched for is listed for the lines that have it, and for no others. -/
  lists : ∀ {term}, d.rule.IsSearchable term → ∀ k n, d.Lists term k n ↔ d.Says term k n

/-- To everybody, the lists of a form tell what its lines say. -/
structure IsFaithful (d : Stored) : Prop where
  /-- Every line has a timecode with which it would be indexed. -/
  valid : ∀ t ∈ d.transcripts, isValid t = true
  /-- A term has a list when a line has it, with one occurrence for each time, and its timecode. -/
  lists : ∀ term, Option.Rel List.Perm (d.postings.get? term) (Index.nonempty? (d.spoken term))

variable {d : Stored} {x : Index} {k : SessionKey}

theorem mem_spoken {term : Text} {p : Posting} :
    p ∈ d.spoken term ↔ ∃ s ∈ d.sessions, s.attributes.key = p.session ∧
      ∃ l, s.lines[p.line]? = some l ∧ term ∈ d.rule.terms l.text ∧ l.timecode = p.timecode := by
  simp only [spoken, transcripts, List.mem_flatMap, List.mem_map]
  constructor
  · rintro ⟨_, ⟨s, hs, rfl⟩, hp⟩
    obtain ⟨l, hl, hterm, hp'⟩ := TermRule.mem_postingsOf.1 hp
    rw [hp']
    exact ⟨s, hs, rfl, l, hl, hterm, rfl⟩
  · rintro ⟨s, hs, hk, l, hl, hterm, htimecode⟩
    refine ⟨_, ⟨s, hs, rfl⟩, TermRule.mem_postingsOf.2 ⟨l, hl, hterm, ?_⟩⟩
    cases p
    cases hk
    cases htimecode
    rfl

theorem says_iff {term : Text} {n : Nat} :
    d.Says term k n ↔ ∃ p ∈ d.spoken term, p.session = k ∧ p.line = n := by
  constructor
  · rintro ⟨s, hs, rfl, l, hl, hterm⟩
    exact ⟨⟨s.attributes.key, n, l.timecode⟩, mem_spoken.2 ⟨s, hs, rfl, l, hl, hterm, rfl⟩, rfl,
      rfl⟩
  · rintro ⟨p, hp, rfl, rfl⟩
    obtain ⟨s, hs, hk, l, hl, hterm, -⟩ := mem_spoken.1 hp
    exact ⟨s, hs, hk, l, hl, hterm⟩

/-- A faithful form is truthful. -/
theorem IsFaithful.isTruthful (h : d.IsFaithful) : d.IsTruthful where
  valid := h.valid
  lists {term} _ k n := by
    have perm := Index.perm_of_rel (h.lists term)
    rw [Index.getD_nonempty?] at perm
    rw [says_iff, Lists]
    exact exists_congr fun p => and_congr_left fun _ => perm.mem_iff

/-! ### The accepted index and the rebuilt one -/

theorem eq_of_index (h : d.index = .ok x) :
    d.IsConsistent ∧ x = ⟨d.rule, d.postings, .ofList (d.sessions.map d.entry)⟩ := by
  refine ⟨exists_index_iff.1 ⟨x, h⟩, ?_⟩
  rw [index, inconsistency?_eq_none_iff_isConsistent.2 (exists_index_iff.1 ⟨x, h⟩)] at h
  exact (Except.ok.inj h).symm

theorem IsConsistent.distinct_transcripts (h : d.IsConsistent) : Distinct d.transcripts :=
  List.pairwise_map.2 h.distinct

/-- The sessions of an accepted form are those of its transcripts. -/
theorem sessions_of_index (h : d.index = .ok x) (k : SessionKey) :
    x.sessions.get? k =
      (last? k d.transcripts).map fun t => ⟨t.attributes, d.termsOf t.key, t.lines⟩ := by
  obtain ⟨hd, rfl⟩ := eq_of_index h
  have nodup : ((d.sessions.map d.entry).map Prod.fst).Nodup := by
    rw [map_fst_entry, List.nodup_iff_pairwise_ne, List.pairwise_map]
    exact hd.distinct
  refine Option.ext fun s => ?_
  rw [SortedMap.get?_ofList_eq_some_iff nodup, List.mem_map, Option.map_eq_some_iff]
  constructor
  · rintro ⟨s', hs', he⟩
    cases he
    exact ⟨s'.transcript,
      (last?_eq_some_iff hd.distinct_transcripts).2 ⟨List.mem_map_of_mem hs', rfl⟩, rfl⟩
  · rintro ⟨t, ht, rfl⟩
    obtain ⟨hmem, rfl⟩ := (last?_eq_some_iff hd.distinct_transcripts).1 ht
    obtain ⟨s', hs', rfl⟩ := List.mem_map.1 hmem
    exact ⟨s', hs', rfl⟩

theorem sessions_rebuilt (d : Stored) (k : SessionKey) :
    d.rebuilt.sessions.get? k = (standing? k d.transcripts).map (Index.sessionOf d.rule) := by
  rw [rebuilt, Index.build, Index.sessions_merge]
  exact Option.or_none

theorem linked_rebuilt (d : Stored) : d.rebuilt.Linked := Index.linked_build d.rule d.transcripts

theorem rule_rebuilt (d : Stored) : d.rebuilt.rule = d.rule := Index.rule_merge _ _

/-- The lists of the rebuilt index are those of the lines, when nothing is rejected. -/
theorem postings_rebuilt (hd : Distinct d.transcripts)
    (hvalid : ∀ t ∈ d.transcripts, isValid t = true)
    (term : Text) : d.rebuilt.postings.get? term = Index.nonempty? (d.spoken term) := by
  have accepted : accepted d.transcripts = d.transcripts := by
    rw [Batch.accepted, lastCopies_of_distinct hd]
    exact List.filter_eq_self.2 hvalid
  have tidy : d.rebuilt.Tidy := (Index.follows_run d.rule [.build d.transcripts]).tidy
  have occurrences : d.rebuilt.occurrences term = d.spoken term := by
    rw [rebuilt, Index.build, (Index.linked_empty d.rule).occurrences_merge, accepted]
    rfl
  rw [tidy.get?, occurrences]

/-- **Answers.**  An accepted form answers as the rebuilt index just when it is truthful. -/
theorem sameAnswers_rebuilt_iff (h : d.index = .ok x) : x.SameAnswers d.rebuilt ↔ d.IsTruthful := by
  have linked := linked_of_index h
  have sessions := sessions_of_index h
  obtain ⟨hd, hx⟩ := eq_of_index h
  have hrule : x.rule = d.rebuilt.rule := by rw [rule_rebuilt, hx]
  have listed : ∀ k n term, n ∈ x.positions k term ↔ d.Lists term k n := fun k n term => by
    rw [Index.mem_positions, Index.occurrences, hx]
    rfl
  have spoken : (∀ t ∈ d.transcripts, isValid t = true) → ∀ k n term,
      n ∈ d.rebuilt.positions k term ↔ d.Says term k n := fun hvalid k n term => by
    rw [Index.mem_positions, Index.occurrences, postings_rebuilt hd.distinct_transcripts hvalid,
      Index.getD_nonempty?, says_iff]
  constructor
  · intro same
    have valid : ∀ t ∈ d.transcripts, isValid t = true := fun t ht => by
      have last := (last?_eq_some_iff hd.distinct_transcripts).2 ⟨ht, rfl⟩
      -- every session answers to an empty query, and the rebuilt index has the valid ones only
      have answers : x.satisfies t.key ⟨.empty, []⟩ = true := by
        rw [Index.satisfies, sessions, last]
        rfl
      rw [same.satisfies, Index.satisfies, sessions_rebuilt, standing?, last] at answers
      by_contra hinvalid
      rw [Option.filter_some, if_neg hinvalid] at answers
      cases answers
    refine ⟨valid, fun {term} hterm k n => ?_⟩
    have hterm : x.rule.IsSearchable term := by rwa [hrule, rule_rebuilt]
    rw [← listed, ← spoken valid, same.mem_positions_iff linked d.linked_rebuilt hrule hterm]
  · intro truthful
    have attributes :
        ∀ k, x.attributes? k = d.rebuilt.attributes? k ∧ x.lines? k = d.rebuilt.lines? k :=
      fun k => by
        rw [Index.attributes?, Index.lines?, Index.attributes?, Index.lines?, sessions,
          sessions_rebuilt, standing?_eq_last? truthful.valid]
        cases last? k d.transcripts <;> exact ⟨rfl, rfl⟩
    refine Index.sameAnswers_of_positions linked d.linked_rebuilt hrule (fun k => (attributes k).1)
      (fun k => (attributes k).2) fun {term} hterm k n => ?_
    rw [hrule, rule_rebuilt] at hterm
    rw [listed, spoken truthful.valid]
    exact truthful.lists hterm k n

/-- **Answers and lists.**  It is as good as the rebuilt index just when it is faithful. -/
theorem sameLists_rebuilt_iff (h : d.index = .ok x) :
    x.SameAnswers d.rebuilt ∧ x.SameLists d.rebuilt ↔ d.IsFaithful := by
  obtain ⟨hd, hx⟩ := eq_of_index h
  have lists : (∀ t ∈ d.transcripts, isValid t = true) → (x.SameLists d.rebuilt ↔
      ∀ term, Option.Rel List.Perm (d.postings.get? term) (Index.nonempty? (d.spoken term))) :=
    fun hvalid => forall_congr' fun term => by
      rw [postings_rebuilt hd.distinct_transcripts hvalid, hx]
  constructor
  · rintro ⟨answers, same⟩
    have truthful := (sameAnswers_rebuilt_iff h).1 answers
    exact ⟨truthful.valid, (lists truthful.valid).1 same⟩
  · intro faithful
    exact ⟨(sameAnswers_rebuilt_iff h).2 faithful.isTruthful,
      (lists faithful.valid).2 faithful.lists⟩

/-! ### What is written of an index that was built -/

theorem last?_transcripts_stored {log : Index.Log} (h : x.Follows log) (k : SessionKey) :
    last? k x.stored.transcripts = last? k log := by
  have read := sessions_of_index h.linked.index_stored k
  have found : log.find? (·.key = k) = last? k log := Option.ext fun t =>
    (h.distinct.find?_eq_some_iff k t).trans (last?_eq_some_iff h.distinct).symm
  rw [h.sessions, found] at read
  -- a transcript is known by what a session retains of it
  have back := congrArg (Option.map fun s => StoredSession.transcript ⟨s.attributes, s.lines⟩) read
  rw [Option.map_map, Option.map_map] at back
  exact (congrFun Option.map_id _).symm.trans (back.symm.trans (congrFun Option.map_id _))

/-- **What is written is faithful**, of an index that follows a log of sound transcripts. -/
theorem isFaithful_stored {log : Index.Log} (h : x.Follows log)
    (hsound : ∀ t ∈ log, Index.Log.IsSound t) : x.stored.IsFaithful := by
  have perm : x.stored.transcripts.Perm log :=
    perm_of_last? (eq_of_index h.linked.index_stored).1.distinct_transcripts h.distinct
      (last?_transcripts_stored h)
  have rule : x.stored.rule = x.rule := Index.ofMinLength_minLength x.rule
  refine ⟨fun t ht => (Index.Log.isSound_iff t).1 (hsound t (perm.mem_iff.1 ht)), fun term => ?_⟩
  have spoken : (x.occurrences term).Perm (x.stored.spoken term) := by
    rw [h.occurrences, Stored.spoken, rule]
    exact (perm.flatMap_right _).symm
  have lists : x.stored.postings.get? term = Index.nonempty? (x.occurrences term) :=
    h.tidy.get? term
  rw [lists]
  exact Index.rel_nonempty? spoken

/-- **An accepted form is as good as its lists.**  A form is accepted when its lists name lines that
are there.  The index that it gives answers as the one that is built from its lines just when it is
truthful, and has the same lists besides just when it is faithful.  What is written of an index that
was built from transcripts is faithful. -/
theorem accepted_as_rebuilt :
    (∀ d : Stored, (∃ x, d.index = .ok x) ↔ d.IsConsistent) ∧
    (∀ (d : Stored) (x : Index), d.index = .ok x →
      (x.SameAnswers d.rebuilt ↔ d.IsTruthful) ∧
      (x.SameAnswers d.rebuilt ∧ x.SameLists d.rebuilt ↔ d.IsFaithful)) ∧
    ∀ rule changes, ((Index.empty rule).run changes).stored.IsFaithful :=
  ⟨fun _ => exists_index_iff, fun _ _ h => ⟨sameAnswers_rebuilt_iff h, sameLists_rebuilt_iff h⟩,
    fun rule changes => isFaithful_stored (Index.follows_run rule changes)
      (Index.Log.isSound_of_mem_run changes)⟩

/-! ### Forms at odds with their lines -/

/-- A form with one line, of one word. -/
def oneWord (postings : List (Text × List Posting)) : Stored :=
  ⟨1, [⟨⟨2015, 1, none⟩, [⟨"swift".toList, ⟨0⟩⟩]⟩], .ofList postings⟩

/-- The first line of its session, with some timecode. -/
def firstLine (timecode : Timecode) : Posting := ⟨⟨2015, 1⟩, 0, timecode⟩

/-- The word is not listed, another word is, a timecode is not that of the line, a list is empty. -/
def odd : List Stored :=
  [oneWord [],
    oneWord [("swift".toList, [firstLine ⟨0⟩]), ("ghost".toList, [firstLine ⟨0⟩])],
    oneWord [("swift".toList, [firstLine ⟨0x3FF0000000000000⟩])],
    oneWord [("swift".toList, [firstLine ⟨0⟩]), ("idle".toList, [])]]

/-- **Forms at odds with their lines are accepted**, and then what was said is not found. -/
theorem odd_accepted :
    (∀ d ∈ odd, ∃ x, d.index = .ok x) ∧
      ∃ x, (oneWord []).index = .ok x ∧ ¬ x.SameAnswers (oneWord []).rebuilt := by
  have consistent : ∀ d ∈ odd, d.IsConsistent := by decide
  have accepted : ∀ d ∈ odd, ∃ x, d.index = .ok x :=
    fun d hd => exists_index_iff.2 (consistent d hd)
  obtain ⟨x, hx⟩ := accepted (oneWord []) List.mem_cons_self
  refine ⟨accepted, x, hx, fun h => ?_⟩
  have missed : (⟨(oneWord []).rule, (oneWord []).postings,
      .ofList ((oneWord []).sessions.map (oneWord []).entry)⟩ : Index).satisfies ⟨2015, 1⟩
        (Index.ask "swift".toList) = false := by decide
  have found : (oneWord []).rebuilt.satisfies ⟨2015, 1⟩ (Index.ask "swift".toList) = true := by
    decide
  rw [← h.satisfies, (eq_of_index hx).2, missed] at found
  cases found

/-- What is written of a session is as good as the session. -/
theorem another_as_rebuilt :
    ∃ x, ((Index.empty default).run [.build [Index.another]]).stored.index = .ok x ∧
      x.SameAnswers ((Index.empty default).run [.build [Index.another]]).stored.rebuilt ∧
      x.SameLists ((Index.empty default).run [.build [Index.another]]).stored.rebuilt := by
  obtain ⟨-, accepted, built⟩ := accepted_as_rebuilt
  have read := (Index.follows_run default [.build [Index.another]]).linked.index_stored
  exact ⟨_, read, (accepted _ _ read).2.2 (built default [.build [Index.another]])⟩

end Stored

end TranscriptSearch
