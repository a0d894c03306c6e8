import TranscriptSearch.Proofs.Index.Scan
import TranscriptSearch.Proofs.Service.Request
import TranscriptSearch.Proofs.Snapshot.Record

/-!
# Command line — what was indexed

A catalogue has one transcript for each session.  Indexing a batch overlays it with the last
copies of the batch whose timecodes are all valid, and a session satisfies a query when its
transcript does, which is decided on the lines themselves.

* `Catalogue.overlay`, `Transcript.Satisfies`: what indexing and searching should do.
* `Index.Holds`: an index holds a catalogue; `Holds.merge`: a batch overlays what it holds.
* `Holds.lists`: a search finds the sessions whose transcripts satisfy the query.
* `Holds.storable`: an index of a catalogue whose numbers read back can be written and read.
-/

namespace TranscriptSearch

/-- A transcript for each session that was indexed. -/
abbrev Catalogue := SortedMap SessionKey Transcript

/-- A transcript satisfies a query: it meets every qualifier, and its lines have every term of the
free text. -/
def Transcript.Satisfies (rule : TermRule) (t : Transcript) (q : Query) : Prop :=
  (∀ p ∈ q.qualifiers.toList, Index.Meets rule t.attributes t.lines p.1 p.2) ∧
    Index.Says rule t.lines q.freeText

namespace Catalogue

/-- The catalogue with the last copies of a batch, of those whose timecodes are all valid. -/
def overlay (m : Catalogue) (batch : List Transcript) : Catalogue :=
  ((Index.Log.lastCopies batch).filter Index.Log.IsSound).foldl (fun m t => m.insert t.key t) m

theorem get?_overlay (m : Catalogue) (batch : List Transcript) (k : SessionKey) :
    (m.overlay batch).get? k = (Batch.standing? k batch).or (m.get? k) := by
  rw [overlay, Index.Log.filter_isSound]
  exact (Request.get?_foldl_change m _ k).trans (by rw [Batch.last?_accepted])

/-- Its numbers are not too large, and its timecodes read back from what is written of them. -/
structure Fits (m : Catalogue) : Prop where
  /-- The number of sessions has 64 bits. -/
  size : m.size < UInt64.size
  /-- The position of every line has 32 bits. -/
  length : ∀ t ∈ m.values, t.lines.length ≤ UInt32.size
  /-- The timecodes read back. -/
  timecodes : ∀ t ∈ m.values, ∀ l ∈ t.lines, Json.ReadsBack l.timecode

/-- Some keys are those of the transcripts that satisfy a query, ascending. -/
structure Lists (m : Catalogue) (rule : TermRule) (q : Query) (keys : List SessionKey) : Prop where
  /-- Each key is there once, and in its place. -/
  ascending : keys.Pairwise fun a b => compare a b = .lt
  /-- They are the keys of the transcripts that satisfy the query. -/
  mem_iff : ∀ k, k ∈ keys ↔ ∃ t ∈ m.get? k, t.Satisfies rule q

theorem mem_values {m : Catalogue} {k : SessionKey} {t : Transcript} (h : m.get? k = some t) :
    t ∈ m.values :=
  List.mem_map_of_mem ((SortedMap.get?_eq_some_iff m k t).1 h)

end Catalogue

/-! ### Batches -/

/-- The changed transcripts of a request have the copies that stand of those that were changed. -/
theorem Request.standing?_ofChanged (ts : List Transcript) (k : SessionKey) :
    Batch.standing? k (ofChanged ts).batch = Batch.standing? k ts := by
  rw [Batch.standing?, last?_ofChanged, Batch.standing?]

namespace Index

theorem Log.find?_foldl_keep (ts : List Transcript) (log : Log) (k : SessionKey) :
    (ts.foldl keep log).find? (·.key = k) =
      (Batch.last? k ts).or (log.find? (·.key = k)) := by
  induction ts generalizing log with
  | nil => rfl
  | cons t ts ih =>
      rw [List.foldl_cons, ih, find?_keep, Batch.last?_cons, Option.or_assoc]
      by_cases h : t.key = k
      · rw [if_pos h.symm, if_pos h, Option.some_or]
      · rw [if_neg (Ne.symm h), if_neg h, Option.none_or]

theorem Log.find?_merge (log : Log) (batch : List Transcript) (k : SessionKey) :
    (log.merge batch).find? (·.key = k) =
      (Batch.standing? k batch).or (log.find? (·.key = k)) := by
  rw [merge, filter_isSound, find?_foldl_keep, Batch.last?_accepted]

/-! ### Indexes of a catalogue -/

/-- An index holds a catalogue: it follows a log with the same transcripts. -/
structure Holds (x : Index) (rule : TermRule) (m : Catalogue) : Prop where
  /-- The index cuts terms by the rule. -/
  rule : x.rule = rule
  /-- It follows a log with the transcripts of the catalogue. -/
  follows : ∃ log, x.Follows log ∧ ∀ k, m.get? k = log.find? (·.key = k)

namespace Holds

variable {x : Index} {rule : TermRule} {m : Catalogue}

theorem empty (rule : TermRule) : (Index.empty rule).Holds rule .empty :=
  ⟨rfl, [], .empty rule, fun _ => rfl⟩

/-- **A batch overlays what an index holds.** -/
theorem merge (h : x.Holds rule m) {batch ts : List Transcript}
    (hsame : ∀ k, Batch.standing? k batch = Batch.standing? k ts) :
    (x.merge batch).Holds rule (m.overlay ts) := by
  obtain ⟨log, hfollows, hlog⟩ := h.follows
  refine ⟨(rule_merge x batch).trans h.rule, log.merge batch, hfollows.merge batch, fun k => ?_⟩
  rw [Catalogue.get?_overlay, Log.find?_merge, hsame, hlog]

theorem linked (h : x.Holds rule m) : x.Linked :=
  let ⟨_, hfollows, _⟩ := h.follows
  hfollows.linked

theorem get?_sessions (h : x.Holds rule m) (k : SessionKey) :
    x.sessions.get? k = (m.get? k).map (told rule) := by
  obtain ⟨log, hfollows, hlog⟩ := h.follows
  rw [hfollows.sessions, hlog, h.rule]

theorem satisfies_iff (h : x.Holds rule m) (k : SessionKey) (q : Query) :
    x.satisfies k q = true ↔ ∃ t ∈ m.get? k, t.Satisfies rule q := by
  obtain ⟨log, hfollows, -⟩ := h.follows
  rw [satisfies_iff_scan hfollows.linked hfollows.transcribed, MeetsAll, attributes?, lines?,
    h.get?_sessions, h.rule]
  cases m.get? k with
  | none => simp
  | some t => simp [told, Transcript.Satisfies]

/-- **A search finds the sessions whose transcripts satisfy the query.** -/
theorem lists (h : x.Holds rule m) (v : Query.Vocabulary) (raw : Text) :
    m.Lists rule (v.parse raw) (x.matchingSessions v raw) where
  ascending := matchingSessions_ascending x v raw
  mem_iff k := by rw [mem_matchingSessions, search, h.satisfies_iff]

/-! ### Writing -/

theorem size_sessions (h : x.Holds rule m) : x.sessions.size = m.size := by
  have same : ∀ k, k ∈ x.sessions.keys ↔ k ∈ m.keys := fun k => by
    rw [SortedMap.mem_keys, SortedMap.mem_keys, SortedMap.contains, SortedMap.contains,
      h.get?_sessions, Option.isSome_map]
  have keys : x.sessions.keys.length = m.keys.length :=
    ((List.perm_ext_iff_of_nodup x.sessions.nodup_keys m.nodup_keys).2 same).length_eq
  rwa [SortedMap.keys, SortedMap.keys, List.length_map, List.length_map] at keys

/-- What is retained of a session is what its transcript says. -/
theorem exists_of_mem_values (h : x.Holds rule m) {s : Session} (hs : s ∈ x.sessions.values) :
    ∃ t ∈ m.values, s.lines = t.lines := by
  obtain ⟨⟨k, s⟩, hk, rfl⟩ := List.mem_map.1 hs
  have hget := (SortedMap.get?_eq_some_iff _ k s).2 hk
  rw [h.get?_sessions] at hget
  obtain ⟨t, ht, rfl⟩ := Option.map_eq_some_iff.1 hget
  exact ⟨t, Catalogue.mem_values ht, rfl⟩

/-- The timecode of an occurrence is that of a line. -/
theorem exists_of_mem_postings (h : x.Holds rule m) {ps : List Posting}
    (hps : ps ∈ x.postings.values) {p : Posting} (hp : p ∈ ps) :
    ∃ t ∈ m.values, ∃ l ∈ t.lines, p.timecode = l.timecode := by
  obtain ⟨log, hfollows, hlog⟩ := h.follows
  obtain ⟨⟨term, ps⟩, he, rfl⟩ := List.mem_map.1 hps
  have hoccurs : p ∈ x.occurrences term := by
    rw [occurrences, (SortedMap.get?_eq_some_iff _ term ps).2 he]
    exact hp
  rw [hfollows.occurrences] at hoccurs
  obtain ⟨t, ht, hpt⟩ := List.mem_flatMap.1 hoccurs
  obtain ⟨l, hl, -, hp'⟩ := TermRule.mem_postingsOf.1 hpt
  have hget : m.get? t.key = some t :=
    (hlog t.key).trans ((hfollows.distinct.find?_eq_some_iff t.key t).2 ⟨ht, rfl⟩)
  exact ⟨t, Catalogue.mem_values hget, l, List.mem_of_getElem? hl, by rw [hp']⟩

/-- **An index of a catalogue that fits can be written and read.** -/
theorem storable (h : x.Holds rule m) (hm : m.Fits) (hrule : rule.minLength < UInt64.size) :
    x.Storable where
  minLength := h.rule ▸ hrule
  size := h.size_sessions ▸ hm.size
  length s hs := by
    obtain ⟨t, ht, e⟩ := h.exists_of_mem_values hs
    exact e ▸ hm.length t ht
  lines s hs l hl := by
    obtain ⟨t, ht, e⟩ := h.exists_of_mem_values hs
    exact hm.timecodes t ht l (e ▸ hl)
  occurrences ps hps p hp := by
    obtain ⟨t, ht, l, hl, e⟩ := h.exists_of_mem_postings hps hp
    exact e ▸ hm.timecodes t ht l hl

end Holds

end Index

end TranscriptSearch
