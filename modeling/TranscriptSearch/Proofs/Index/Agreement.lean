import Mathlib.Data.List.Basic
import TranscriptSearch.Index.Search
import TranscriptSearch.Proofs.Index.Linked

/-!
# Index — indexes that answer alike

Two indexes that came about in different ways may list the occurrences of a term in different
orders.  No answer shows it: every answer is about one session, and within a session the order is
that of the lines.

* `Alike`: two indexes give the same answers.
* `Agrees`: two indexes hold the same of every session; `Agrees.alike`: then they are alike.
* `sessions_merge`, `Linked.occurrencesIn_merge`: after a merge a session of the batch is what its
  last copy makes of it, if that copy is valid, and the others are as before.
* `Linked.merge_merge`: two merges are one of a batch with the same last copies.
-/

namespace TranscriptSearch

/-! ### The copy of a batch that stands -/

namespace Batch

/-- The last transcript with a key. -/
def last? (k : SessionKey) (batch : List Transcript) : Option Transcript :=
  batch.reverse.find? (·.key = k)

/-- The transcript that is indexed under a key. -/
def standing? (k : SessionKey) (batch : List Transcript) : Option Transcript :=
  (last? k batch).filter isValid

variable {k : SessionKey} {batch : List Transcript}

theorem last?_append (k : SessionKey) (a b : List Transcript) :
    last? k (a ++ b) = (last? k b).or (last? k a) := by
  rw [last?, List.reverse_append, List.find?_append]
  rfl

theorem last?_singleton (k : SessionKey) (t : Transcript) :
    last? k [t] = if t.key = k then some t else none := by
  by_cases h : t.key = k <;> simp [last?, h]

theorem last?_cons (k : SessionKey) (t : Transcript) (rest : List Transcript) :
    last? k (t :: rest) = (last? k rest).or (if t.key = k then some t else none) := by
  rw [← List.singleton_append, last?_append, last?_singleton]

theorem key_of_last? {t : Transcript} (h : last? k batch = some t) : t.key = k := by
  simpa using List.find?_some h

theorem mem_of_last? {t : Transcript} (h : last? k batch = some t) : t ∈ batch :=
  List.mem_reverse.1 (List.mem_of_find?_eq_some h)

theorem last?_eq_none_iff : last? k batch = none ↔ lacks k batch = true := by
  simp [last?, lacks]

/-- Under each key only its last copy can be accepted. -/
theorem last?_accepted (k : SessionKey) (batch : List Transcript) :
    last? k (accepted batch) = standing? k batch := by
  induction batch with
  | nil => rfl
  | cons t rest ih =>
      rw [accepted, lastCopies, standing?, last?_cons]
      rw [accepted, standing?] at ih
      by_cases hk : t.key = k
      · subst hk
        -- the first copy counts only when no copy follows it
        by_cases hl : lacks t.key rest = true
        · rw [if_pos hl, last?_eq_none_iff.2 hl, Option.none_or, if_pos rfl, List.filter_cons]
          rw [last?_eq_none_iff.2 hl] at ih
          by_cases hv : isValid t = true
          · rw [if_pos hv, last?_cons, ih, if_pos rfl, Option.filter_some, if_pos hv]
            rfl
          · rw [if_neg hv, ih, Option.filter_some, if_neg hv]
            rfl
        · obtain ⟨u, hu⟩ := Option.ne_none_iff_exists'.1 (mt last?_eq_none_iff.1 hl)
          rw [if_neg hl, ih, hu, Option.some_or]
      · rw [if_neg hk, Option.or_none, ← ih]
        split
        · rw [List.filter_cons]
          split
          · rw [last?_cons, if_neg hk, Option.or_none]
          · rfl
        · rfl

theorem standing?_of_valid {t : Transcript} (h : last? k batch = some t)
    (hvalid : isValid t = true) :
    standing? k batch = some t := by
  rw [standing?, h, Option.filter_some, if_pos hvalid]

theorem standing?_of_invalid {t : Transcript} (h : last? k batch = some t)
    (hinvalid : isValid t = false) : standing? k batch = none := by
  rw [standing?, h, Option.filter_some, if_neg (ne_true_of_eq_false hinvalid)]

theorem standing?_of_none (h : last? k batch = none) : standing? k batch = none := by
  rw [standing?, h, Option.filter_none]

theorem standing?_eq_last? (h : ∀ t ∈ batch, isValid t = true) (k : SessionKey) :
    standing? k batch = last? k batch := by
  rw [standing?]
  cases hl : last? k batch with
  | none => rfl
  | some t => rw [Option.filter_some, if_pos (h t (mem_of_last? hl))]

end Batch

namespace Index

/-! ### Answers -/

/-- The occurrences of a term in a session. -/
def occurrencesIn (x : Index) (k : SessionKey) (term : Text) : List Posting :=
  (x.occurrences term).filter fun p => p.session == k

/-- Two indexes give the same answers. -/
structure Alike (x y : Index) : Prop where
  /-- They list the same sessions. -/
  keys : x.keys = y.keys
  /-- They retain the same attributes. -/
  attributes : ∀ k, x.attributes? k = y.attributes? k
  /-- They retain the same lines. -/
  lines : ∀ k, x.lines? k = y.lines? k
  /-- A raw query is satisfied by the same sessions. -/
  search : ∀ v raw k, x.search v raw k = y.search v raw k
  /-- A raw query lists the same sessions. -/
  matchingSessions : ∀ v raw, x.matchingSessions v raw = y.matchingSessions v raw
  /-- A query finds the same lines. -/
  matchingLines : ∀ k q, x.matchingLines k q = y.matchingLines k q

/-- Two indexes hold the same of every session. -/
structure Agrees (x y : Index) : Prop where
  /-- They cut lines and queries alike. -/
  rule : x.rule = y.rule
  /-- They have the same sessions. -/
  sessions : x.sessions = y.sessions
  /-- A term has the same occurrences in a session, in the same order. -/
  occurrencesIn : ∀ k term, x.occurrencesIn k term = y.occurrencesIn k term

namespace Agrees

variable {x y z : Index}

theorem refl (x : Index) : x.Agrees x := ⟨rfl, rfl, fun _ _ => rfl⟩

theorem symm (h : x.Agrees y) : y.Agrees x :=
  ⟨h.rule.symm, h.sessions.symm, fun k term => (h.occurrencesIn k term).symm⟩

theorem trans (h : x.Agrees y) (h' : y.Agrees z) : x.Agrees z :=
  ⟨h.rule.trans h'.rule, h.sessions.trans h'.sessions,
    fun k term => (h.occurrencesIn k term).trans (h'.occurrencesIn k term)⟩

theorem satisfies (h : x.Agrees y) (k : SessionKey) (q : Query) :
    x.satisfies k q = y.satisfies k q := by
  simp only [Index.satisfies, satisfiesQualifier, hasTerms, h.rule, h.sessions]

theorem matchingLines (h : x.Agrees y) (k : SessionKey) (q : Query) :
    x.matchingLines k q = y.matchingLines k q := by
  have positions : x.positions k = y.positions k := funext fun term =>
    congrArg (List.map Posting.line) (h.occurrencesIn k term)
  simp only [Index.matchingLines, h.satisfies, searchedTerms, h.rule, positions, lines?, h.sessions]

/-- **Only what is held of each session shows.** -/
theorem alike (h : x.Agrees y) : x.Alike y where
  keys := by rw [keys, keys, h.sessions]
  attributes k := by rw [attributes?, attributes?, h.sessions]
  lines k := by rw [lines?, lines?, h.sessions]
  search v raw k := h.satisfies k _
  matchingSessions v raw := by
    simp only [Index.matchingSessions, keys, h.sessions, h.satisfies]
  matchingLines := h.matchingLines

end Agrees

/-! ### Merging, session by session -/

theorem sessions_foldl_reindex (x : Index) (ts : List Transcript) (k : SessionKey) :
    (ts.foldl reindex x).sessions.get? k =
      ((Batch.last? k ts).map (sessionOf x.rule)).or (x.sessions.get? k) := by
  induction ts generalizing x with
  | nil => rfl
  | cons t ts ih =>
      rw [List.foldl_cons, ih, rule_reindex, sessions_reindex, Batch.last?_cons]
      cases Batch.last? k ts with
      | some u => rfl
      | none =>
          by_cases h : k = t.key
          · rw [if_pos h, if_pos h.symm]; rfl
          · rw [if_neg h, if_neg (Ne.symm h)]; rfl

theorem Linked.occurrencesIn_reindex {x : Index} (h : x.Linked) (t : Transcript) (k : SessionKey)
    (term : Text) :
    (x.reindex t).occurrencesIn k term =
      if k = t.key then x.rule.postingsOf term t else x.occurrencesIn k term := by
  have new := x.rule.filter_postingsOf term (· == k) t
  rw [occurrencesIn, h.occurrences_reindex, List.filter_append, List.filter_filter]
  by_cases hk : k = t.key
  · have old : (x.occurrences term).filter (fun p => p.session == k && p.session != t.key) = [] :=
      List.filter_eq_nil_iff.2 fun p _ => by simp [hk]
    rw [if_pos hk, old, new, if_pos (beq_iff_eq.2 hk.symm), List.nil_append]
  · have old : (x.occurrences term).filter (fun p => p.session == k && p.session != t.key) =
        x.occurrencesIn k term :=
      List.filter_congr fun p _ => by
        by_cases hp : p.session = k <;> simp [hp, hk]
    rw [if_neg hk, old, new, if_neg (mt beq_iff_eq.1 (Ne.symm hk)), List.append_nil]

theorem Linked.occurrencesIn_foldl_reindex {x : Index} (h : x.Linked) (ts : List Transcript)
    (k : SessionKey) (term : Text) :
    (ts.foldl Index.reindex x).occurrencesIn k term =
      ((Batch.last? k ts).map (x.rule.postingsOf term)).getD (x.occurrencesIn k term) := by
  induction ts generalizing x with
  | nil => rfl
  | cons t ts ih =>
      rw [List.foldl_cons, ih (h.reindex t), rule_reindex, h.occurrencesIn_reindex,
        Batch.last?_cons]
      cases Batch.last? k ts with
      | some u => rfl
      | none =>
          by_cases hk : k = t.key
          · rw [if_pos hk, if_pos hk.symm]; rfl
          · rw [if_neg hk, if_neg (Ne.symm hk)]; rfl

/-- The sessions after a merge. -/
theorem sessions_merge (x : Index) (batch : List Transcript) (k : SessionKey) :
    (x.merge batch).sessions.get? k =
      ((Batch.standing? k batch).map (sessionOf x.rule)).or (x.sessions.get? k) := by
  rw [merge, sessions_foldl_reindex, Batch.last?_accepted]

/-- The occurrences in a session after a merge. -/
theorem Linked.occurrencesIn_merge {x : Index} (h : x.Linked) (batch : List Transcript)
    (k : SessionKey) (term : Text) :
    (x.merge batch).occurrencesIn k term =
      ((Batch.standing? k batch).map (x.rule.postingsOf term)).getD (x.occurrencesIn k term) := by
  rw [Index.merge, h.occurrencesIn_foldl_reindex, Batch.last?_accepted]

/-- Merging one batch into indexes that agree. -/
theorem Agrees.merge {x y : Index} (h : x.Agrees y) (hx : x.Linked) (hy : y.Linked)
    (batch : List Transcript) : (x.merge batch).Agrees (y.merge batch) where
  rule := by rw [rule_merge, rule_merge, h.rule]
  sessions := SortedMap.ext_get? fun k => by
    rw [sessions_merge, sessions_merge, h.rule, h.sessions]
  occurrencesIn k term := by
    rw [hx.occurrencesIn_merge, hy.occurrencesIn_merge, h.rule, h.occurrencesIn]

/-- **Two merges are one.**  A valid batch that is merged after another one could have been put
into it, each transcript in the place of the last one with its key. -/
theorem Linked.merge_merge {x : Index} (h : x.Linked) {a b joint : List Transcript}
    (hb : ∀ t ∈ b, Batch.isValid t = true)
    (hjoint : ∀ k, Batch.last? k joint = (Batch.last? k b).or (Batch.last? k a)) :
    (x.merge joint).Agrees ((x.merge a).merge b) := by
  have standing : ∀ k, Batch.standing? k joint =
      (Batch.standing? k b).or (Batch.standing? k a) := fun k => by
    rw [Batch.standing?_eq_last? hb, Batch.standing?, hjoint]
    cases hl : Batch.last? k b with
    | none => rfl
    | some t => rw [Option.some_or, Option.some_or, Option.filter_some,
        if_pos (hb t (Batch.mem_of_last? hl))]
  refine ⟨?_, SortedMap.ext_get? fun k => ?_, fun k term => ?_⟩
  · rw [rule_merge, rule_merge, rule_merge]
  · rw [sessions_merge, sessions_merge, sessions_merge, rule_merge, standing k]
    cases Batch.standing? k b <;> rfl
  · rw [h.occurrencesIn_merge, (h.merge a).occurrencesIn_merge, h.occurrencesIn_merge, rule_merge,
      standing k]
    cases Batch.standing? k b <;> rfl

end Index

end TranscriptSearch
