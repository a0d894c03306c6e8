import TranscriptSearch.Index.Search
import TranscriptSearch.Proofs.Index.Log

/-!
# Index — searching is scanning the lines

A search reads the term sets of the sessions and the lists of occurrences.  A scan reads nothing
but the attributes and the lines: it cuts the lines into terms again and compares.  Both give the
same answers on every index that was made from transcripts.

* `Meets`, `Says`, `IsAsked`, `scan`: the scan.
* `Transcribed`: the occurrences of every session are those of its lines.
* `Follows.transcribed`: so it is in an index that follows a log.
* `satisfies_iff_scan`, `matchingLines_eq_scan`: searching is scanning.
-/

namespace TranscriptSearch

open Text Number

namespace Index

/-! ### The scan -/

/-- Every term of a text is in some line. -/
def Says (rule : TermRule) (lines : List Line) (t : Text) : Prop :=
  ∀ term ∈ rule.terms t, ∃ l ∈ lines, term ∈ rule.terms l.text

/-- Attributes and lines meet a qualifier. -/
def Meets (rule : TermRule) (a : Attributes) (lines : List Line) (name value : Text) : Prop :=
  (name = "year".toList ∧ value = decimal a.year.toNat) ∨
  (name = "session".toList ∧ value = decimal a.sessionId.toNat) ∨
  (name = "track".toList ∧ ∃ track ∈ a.track, track.map asciiLower = value.map asciiLower) ∨
  (name = "transcript".toList ∧ Says rule lines value)

/-- The attributes and lines of a session meet every qualifier of a query, and the lines have
every term of its free text. -/
def MeetsAll (x : Index) (k : SessionKey) (q : Query) : Prop :=
  ∃ a ∈ x.attributes? k, ∃ lines ∈ x.lines? k,
    (∀ p ∈ q.qualifiers.toList, Meets x.rule a lines p.1 p.2) ∧ Says x.rule lines q.freeText

/-- A line has a term of the free text or of the value of the transcript qualifier. -/
def IsAsked (rule : TermRule) (q : Query) (l : Line) : Prop :=
  ∃ term ∈ rule.terms l.text, term ∈ rule.terms q.freeText ∨
    ∃ value ∈ q.qualifiers.get? "transcript".toList, term ∈ rule.terms value

instance (rule : TermRule) (q : Query) (l : Line) : Decidable (IsAsked rule q l) :=
  inferInstanceAs (Decidable (∃ _ ∈ _, _))

/-- The lines that are asked for, each with its position. -/
def scan (rule : TermRule) (q : Query) (lines : List Line) : List LineMatch :=
  (lines.zipIdx.filter fun p => IsAsked rule q p.1).map fun p => ⟨p.2, p.1.timecode, p.1.text⟩

/-! ### What the occurrences tell of the lines -/

/-- The occurrences of every session are those of its lines. -/
def Transcribed (x : Index) : Prop :=
  ∀ {k s}, x.sessions.get? k = some s → ∀ term n,
    n ∈ x.positions k term ↔ ∃ l, s.lines[n]? = some l ∧ term ∈ x.rule.terms l.text

theorem mem_positions {x : Index} {k : SessionKey} {term : Text} {n : Nat} :
    n ∈ x.positions k term ↔ ∃ p ∈ x.occurrences term, p.session = k ∧ p.line = n := by
  simp [positions, and_assoc]

theorem Follows.transcribed {x : Index} {log : Log} (h : x.Follows log) : x.Transcribed := by
  intro k s hs term n
  rw [h.sessions, Option.map_eq_some_iff] at hs
  obtain ⟨t, ht, rfl⟩ := hs
  obtain ⟨htl, rfl⟩ := (h.distinct.find?_eq_some_iff k t).1 ht
  rw [mem_positions, h.occurrences]
  constructor
  · rintro ⟨p, hp, hk, rfl⟩
    obtain ⟨u, hu, hpu⟩ := List.mem_flatMap.1 hp
    -- the log has the key once, so `p` is an occurrence in `t`
    have hut : u.key = t.key := (TermRule.session_of_mem_postingsOf hpu).symm.trans hk
    have hu' := (h.distinct.find?_eq_some_iff t.key u).2 ⟨hu, hut⟩
    obtain rfl : t = u := Option.some.inj (ht.symm.trans hu')
    obtain ⟨l, hl, hterm, -⟩ := TermRule.mem_postingsOf.1 hpu
    exact ⟨l, hl, hterm⟩
  · rintro ⟨l, hl, hterm⟩
    have hp : (⟨t.key, n, l.timecode⟩ : Posting) ∈ x.rule.postingsOf term t :=
      TermRule.mem_postingsOf.2 ⟨l, hl, hterm, rfl⟩
    exact ⟨_, List.mem_flatMap.2 ⟨t, htl, hp⟩, rfl, rfl⟩

variable {x : Index}

theorem contains_terms_iff (hx : x.Linked) (ht : x.Transcribed) {k : SessionKey} {s : Session}
    (hs : x.sessions.get? k = some s) (term : Text) :
    s.terms.contains term = true ↔ ∃ l ∈ s.lines, term ∈ x.rule.terms l.text := by
  rw [hx.terms hs term]
  constructor
  · rintro ⟨p, hp, hk⟩
    obtain ⟨l, hl, hterm⟩ := (ht hs term p.line).1 (mem_positions.2 ⟨p, hp, hk, rfl⟩)
    exact ⟨l, List.mem_of_getElem? hl, hterm⟩
  · rintro ⟨l, hl, hterm⟩
    obtain ⟨n, hn⟩ := List.getElem?_of_mem hl
    obtain ⟨p, hp, hk, -⟩ := mem_positions.1 ((ht hs term n).2 ⟨l, hn, hterm⟩)
    exact ⟨p, hp, hk⟩

/-! ### Sessions -/

theorem hasTerms_iff (hx : x.Linked) (ht : x.Transcribed) {k : SessionKey} {s : Session}
    (hs : x.sessions.get? k = some s) (t : Text) :
    x.hasTerms s t = true ↔ Says x.rule s.lines t := by
  simp only [hasTerms, List.all_eq_true, Says, contains_terms_iff hx ht hs]

theorem satisfiesQualifier_iff (hx : x.Linked) (ht : x.Transcribed) {k : SessionKey} {s : Session}
    (hs : x.sessions.get? k = some s) (name value : Text) :
    x.satisfiesQualifier s name value = true ↔ Meets x.rule s.attributes s.lines name value := by
  -- the four names exclude each other, so at most one disjunct of `Meets` is left
  have differ : "year".toList ≠ "session".toList ∧ "year".toList ≠ "track".toList ∧
      "year".toList ≠ "transcript".toList ∧ "session".toList ≠ "track".toList ∧
      "session".toList ≠ "transcript".toList ∧ "track".toList ≠ "transcript".toList := by decide
  obtain ⟨ys, yt, yr, st, sr, tr⟩ := differ
  rw [satisfiesQualifier, Meets]
  split
  next h =>
    subst h
    simp only [ys, yt, yr, beq_iff_eq, true_and, false_and, or_false]
    exact eq_comm
  split
  next h =>
    subst h
    simp only [ys.symm, st, sr, beq_iff_eq, true_and, false_and, or_false, false_or]
    exact eq_comm
  split
  next h =>
    subst h
    simp only [yt.symm, st.symm, tr, true_and, false_and, or_false, false_or, eqIgnoringAsciiCase]
    cases s.attributes.track <;> simp
  split
  next h =>
    subst h
    simp only [yr.symm, sr.symm, tr.symm, true_and, false_and, false_or]
    exact hasTerms_iff hx ht hs value
  next h₁ h₂ h₃ h₄ => simp only [h₁, h₂, h₃, h₄, false_and, or_false, Bool.false_eq_true]

theorem satisfies_iff_scan (hx : x.Linked) (ht : x.Transcribed) (k : SessionKey) (q : Query) :
    x.satisfies k q = true ↔ x.MeetsAll k q := by
  rw [satisfies, MeetsAll, attributes?, lines?]
  cases hs : x.sessions.get? k with
  | none => simp
  | some s =>
      simp only [Bool.and_eq_true, List.all_eq_true, satisfiesQualifier_iff hx ht hs,
        hasTerms_iff hx ht hs, Option.map_some, Option.mem_def, Option.some.injEq,
        exists_eq_left']

theorem matchingSessions_ascending (x : Index) (v : Query.Vocabulary) (raw : Text) :
    (x.matchingSessions v raw).Pairwise fun a b => compare a b = .lt :=
  x.sessions.keys_ascending.filter _

theorem mem_matchingSessions (x : Index) (v : Query.Vocabulary) (raw : Text) (k : SessionKey) :
    k ∈ x.matchingSessions v raw ↔ x.search v raw k = true := by
  rw [matchingSessions, List.mem_filter, keys, SortedMap.mem_keys, search]
  refine and_iff_right_of_imp fun h => ?_
  rw [satisfies] at h
  rw [SortedMap.contains]
  cases hs : x.sessions.get? k with
  | none => rw [hs] at h; cases h
  | some s => rfl

/-! ### Lines -/

theorem mem_searchedTerms (x : Index) (q : Query) (term : Text) :
    term ∈ x.searchedTerms q ↔ term ∈ x.rule.terms q.freeText ∨
      ∃ value ∈ q.qualifiers.get? "transcript".toList, term ∈ x.rule.terms value := by
  have nothing : x.rule.terms [] = [] := rfl
  rw [searchedTerms, List.mem_append]
  cases q.qualifiers.get? "transcript".toList with
  | none => simp [nothing]
  | some value => simp

/-- The positions that a search finds are those that a scan finds. -/
theorem elements_positions (ht : x.Transcribed) {k : SessionKey} {s : Session}
    (hs : x.sessions.get? k = some s) (q : Query) :
    (SortedSet.ofList ((x.searchedTerms q).flatMap (x.positions k))).elements =
      (s.lines.zipIdx.filter fun p => IsAsked x.rule q p.1).map Prod.snd := by
  have searched : (SortedSet.ofList ((x.searchedTerms q).flatMap (x.positions k))).elements.Pairwise
      (· < ·) := (SortedMap.keys_ascending _).imp fun h => Nat.compare_eq_lt.1 h
  have scanned : ((s.lines.zipIdx.filter fun p => IsAsked x.rule q p.1).map Prod.snd).Pairwise
      (· < ·) := by
    refine List.Pairwise.sublist (List.filter_sublist.map _) ?_
    rw [List.zipIdx_map_snd]
    exact List.pairwise_lt_range'
  refine searched.eq_of_mem_iff scanned fun n => ?_
  rw [SortedSet.mem_elements, SortedSet.contains_ofList, List.mem_flatMap]
  simp only [ht hs, mem_searchedTerms, List.mem_map, List.mem_filter, Prod.exists,
    List.mem_zipIdx_iff_getElem?, decide_eq_true_eq, exists_eq_right]
  constructor
  · rintro ⟨term, hasked, l, hl, hterm⟩
    exact ⟨l, hl, term, hterm, hasked⟩
  · rintro ⟨l, hl, term, hterm, hasked⟩
    exact ⟨term, hasked, l, hl, hterm⟩

theorem matchingLines_eq_scan (ht : x.Transcribed) (k : SessionKey) (q : Query) :
    x.matchingLines k q =
      if x.satisfies k q then scan x.rule q ((x.lines? k).getD []) else [] := by
  rw [matchingLines]
  refine ite_congr rfl (fun h => ?_) fun _ => rfl
  rw [lines?]
  cases hs : x.sessions.get? k with
  | none => rw [satisfies, hs] at h; cases h
  | some s =>
      rw [elements_positions ht hs, scan, List.filterMap_map, ← List.filterMap_eq_map]
      refine List.filterMap_congr fun p hp => ?_
      have hline := List.mem_zipIdx_iff_getElem?.1 (List.mem_filter.1 hp).1
      simp [hline]

/-- **Searching is scanning.**  On an index that began empty, after any changes: a session
satisfies a raw query exactly when its attributes and lines meet it; the sessions that satisfy it
are listed in ascending order, each once; and the lines of such a session are those with a
searched term of their own, in order, with what was retained of them. -/
theorem search_eq_scan (rule : TermRule) (changes : List Change) (v : Query.Vocabulary)
    (raw : Text) :
    (∀ k, ((empty rule).run changes).search v raw k = true ↔
      ((empty rule).run changes).MeetsAll k (v.parse raw)) ∧
    (((empty rule).run changes).matchingSessions v raw).Pairwise (fun a b => compare a b = .lt) ∧
    (∀ k, k ∈ ((empty rule).run changes).matchingSessions v raw ↔
      ((empty rule).run changes).search v raw k = true) ∧
    ∀ k, ((empty rule).run changes).matchingLines k (v.parse raw) =
      if ((empty rule).run changes).search v raw k then
        scan rule (v.parse raw) ((((empty rule).run changes).lines? k).getD [])
      else [] := by
  have h := follows_run rule changes
  refine ⟨fun k => satisfies_iff_scan h.linked h.transcribed k _,
    matchingSessions_ascending _ v raw, mem_matchingSessions _ v raw, fun k => ?_⟩
  rw [matchingLines_eq_scan h.transcribed k, rule_run]
  rfl

end Index

end TranscriptSearch
