import TranscriptSearch.Proofs.Index.Linked

/-!
# Index — an index is a log of transcripts

What an index holds after any number of changes is told by a plain list of transcripts, the log.
A batch is looked at through the last copy of each key; a copy whose timecodes are all valid goes
to the end of the log, and what the log held under its key goes.

* `Log.change`: what a change does to a log.
* `Follows`: an index holds exactly what a log says.
* `Follows.change`: a change keeps an index and its log together.
* After any changes from the empty index, the sessions with their terms and the lists of
  occurrences are those of the log, in the order of the log.
-/

namespace TranscriptSearch

/-- What callers do to an index. -/
inductive Change where
  /-- To index a batch and nothing else. -/
  | build (batch : List Transcript)
  /-- To index a batch and keep the other sessions. -/
  | merge (batch : List Transcript)
  /-- To remove a session. -/
  | remove (k : SessionKey)

namespace Index

/-- The transcripts that an index holds, in the order in which they came. -/
abbrev Log := List Transcript

namespace Log

/-- No timecode is below zero or not finite. -/
def IsSound (t : Transcript) : Prop :=
  ∀ l ∈ t.lines, l.timecode.isFinite = true ∧ l.timecode.isBelowZero = false

instance (t : Transcript) : Decidable (IsSound t) :=
  inferInstanceAs (Decidable (∀ l ∈ t.lines, _ ∧ _))

/-- The first of some transcripts, unless a later one has its key. -/
def unrepeated? : List Transcript → Option Transcript
  | []         => none
  | t :: later => if ∃ u ∈ later, u.key = t.key then none else some t

/-- The last copy of each key of a batch, in the order of the batch. -/
def lastCopies (batch : List Transcript) : List Transcript := batch.tails.filterMap unrepeated?

/-- The log without a key. -/
def erase (log : Log) (k : SessionKey) : Log := log.filter fun t => t.key ≠ k

/-- The log with a transcript at its end and nowhere else. -/
def keep (log : Log) (t : Transcript) : Log := log.erase t.key ++ [t]

/-- The log with the sound last copies of a batch, each put at the end in turn. -/
def merge (log : Log) (batch : List Transcript) : Log :=
  ((lastCopies batch).filter IsSound).foldl keep log

/-- The log after a change. -/
def change (log : Log) : Change → Log
  | .build batch => merge [] batch
  | .merge batch => log.merge batch
  | .remove k    => log.erase k

/-- The log after some changes to an empty one. -/
def run (changes : List Change) : Log := changes.foldl change []

/-! ### The batch -/

theorem lacks_iff (k : SessionKey) (batch : List Transcript) :
    Batch.lacks k batch = true ↔ ¬ ∃ u ∈ batch, u.key = k := by
  simp [Batch.lacks]

theorem lastCopies_eq (batch : List Transcript) : lastCopies batch = Batch.lastCopies batch := by
  induction batch with
  | nil => rfl
  | cons t rest ih =>
      rw [lastCopies, List.tails, List.filterMap_cons, ← lastCopies, ih, Batch.lastCopies,
        unrepeated?]
      by_cases h : ∃ u ∈ rest, u.key = t.key
      · rw [if_pos h, if_neg fun e => (lacks_iff t.key rest).1 e h]
      · rw [if_neg h, if_pos ((lacks_iff t.key rest).2 h)]

theorem isSound_iff (t : Transcript) : IsSound t ↔ Batch.isValid t = true := by
  simp [IsSound, Batch.isValid, Timecode.isValid]

theorem filter_isSound (batch : List Transcript) :
    (lastCopies batch).filter IsSound = Batch.accepted batch := by
  rw [Batch.accepted, lastCopies_eq]
  refine List.filter_congr fun t _ => ?_
  rw [Bool.eq_iff_iff, decide_eq_true_iff, isSound_iff]

/-! ### The transcripts of a log -/

theorem isSound_of_mem_merge {log : Log} (h : ∀ t ∈ log, IsSound t) (batch : List Transcript) :
    ∀ t ∈ log.merge batch, IsSound t := by
  have sound : ∀ u ∈ (lastCopies batch).filter IsSound, IsSound u := fun u hu =>
    of_decide_eq_true (List.mem_filter.1 hu).2
  rw [merge]
  generalize (lastCopies batch).filter IsSound = us at sound ⊢
  induction us generalizing log with
  | nil => exact h
  | cons u us ih =>
      obtain ⟨hu, hus⟩ := List.forall_mem_cons.1 sound
      refine ih (fun t ht => ?_) hus
      rcases List.mem_append.1 ht with ht | ht
      · exact h t (List.mem_filter.1 ht).1
      · rw [List.mem_singleton.1 ht]
        exact hu

theorem isSound_of_mem_change {log : Log} (h : ∀ t ∈ log, IsSound t) (c : Change) :
    ∀ t ∈ log.change c, IsSound t := by
  cases c with
  | build batch => exact isSound_of_mem_merge (List.forall_mem_nil _) batch
  | merge batch => exact isSound_of_mem_merge h batch
  | remove k => exact fun t ht => h t (List.mem_filter.1 ht).1

/-- Only sound transcripts come into a log. -/
theorem isSound_of_mem_run (changes : List Change) : ∀ t ∈ run changes, IsSound t := by
  have after :
      ∀ {log : Log}, (∀ t ∈ log, IsSound t) → ∀ t ∈ changes.foldl change log, IsSound t := by
    induction changes with
    | nil => exact id
    | cons c changes ih => exact fun h => ih (isSound_of_mem_change h c)
  exact after (List.forall_mem_nil _)

/-! ### Look-ups in a log -/

theorem find?_erase (log : Log) (k a : SessionKey) :
    (log.erase k).find? (·.key = a) = if a = k then none else log.find? (·.key = a) := by
  induction log with
  | nil => simp [erase]
  | cons t log ih =>
      rw [erase] at ih ⊢
      by_cases hk : t.key = k <;> by_cases ha : t.key = a <;> grind

theorem find?_keep (log : Log) (t : Transcript) (a : SessionKey) :
    (log.keep t).find? (·.key = a) = if a = t.key then some t else log.find? (·.key = a) := by
  rw [keep, List.find?_append, find?_erase]
  by_cases h : a = t.key
  · subst h; simp
  · simp [h, Ne.symm h]

/-! ### Each key once -/

/-- No two transcripts of a log have one key. -/
def Distinct (log : Log) : Prop := log.Pairwise fun t u => t.key ≠ u.key

theorem Distinct.erase {log : Log} (h : log.Distinct) (k : SessionKey) : (log.erase k).Distinct :=
  List.Pairwise.filter _ h

theorem Distinct.keep {log : Log} (h : log.Distinct) (t : Transcript) : (log.keep t).Distinct := by
  refine List.pairwise_append.2 ⟨h.erase t.key, List.pairwise_singleton _ _, fun u hu w hw => ?_⟩
  rw [List.mem_singleton.1 hw]
  exact of_decide_eq_true (List.mem_filter.1 hu).2

/-- In a log a key names one transcript. -/
theorem Distinct.find?_eq_some_iff {log : Log} (h : log.Distinct) (k : SessionKey)
    (t : Transcript) : log.find? (·.key = k) = some t ↔ t ∈ log ∧ t.key = k := by
  constructor
  · intro e
    exact ⟨List.mem_of_find?_eq_some e, by simpa using List.find?_some e⟩
  · rintro ⟨ht, rfl⟩
    induction log with
    | nil => cases ht
    | cons u log ih =>
        obtain ⟨hu, hlog⟩ := List.pairwise_cons.1 h
        rcases List.mem_cons.1 ht with rfl | ht
        · simp
        · rw [List.find?_cons_of_neg (by simpa using hu t ht)]
          exact ih hlog ht

end Log

/-! ### The index -/

/-- The index after a change. -/
def change (x : Index) : Change → Index
  | .build batch => build x.rule batch
  | .merge batch => x.merge batch
  | .remove k    => x.erase k

/-- The index after some changes. -/
def run (x : Index) (changes : List Change) : Index := changes.foldl change x

/-! ### The invariant -/

/-- What a log says of the session of a transcript: its attributes, the terms of its lines, and
its lines. -/
def told (rule : TermRule) (t : Transcript) : Session :=
  ⟨t.attributes, .ofList (t.lines.flatMap fun l => rule.terms l.text), t.lines⟩

theorem told_eq_sessionOf (rule : TermRule) (t : Transcript) : told rule t = sessionOf rule t := by
  rw [told, sessionOf, TermRule.map_fst_occurrences]

/-- An index holds exactly what a log says. -/
structure Follows (x : Index) (log : Log) : Prop where
  /-- The three places in which the index knows its sessions agree. -/
  linked : x.Linked
  /-- No list is empty. -/
  tidy : x.Tidy
  /-- The log has each key once. -/
  distinct : log.Distinct
  /-- The sessions are those of the log. -/
  sessions : ∀ k, x.sessions.get? k = (log.find? (·.key = k)).map (told x.rule)
  /-- The occurrences of a term are those in the log, in its order. -/
  occurrences : ∀ term, x.occurrences term = log.flatMap (x.rule.postingsOf term)

namespace Follows

variable {x : Index} {log : Log}

theorem empty (rule : TermRule) : (Index.empty rule).Follows [] where
  linked := linked_empty rule
  tidy _ h := by cases h
  distinct := .nil
  sessions _ := rfl
  occurrences _ := rfl

theorem filter_postingsOf (rule : TermRule) (term : Text) (log : Log) (k : SessionKey) :
    (log.flatMap (rule.postingsOf term)).filter (fun p => p.session != k) =
      (log.erase k).flatMap (rule.postingsOf term) := by
  have same : (log.filter fun t => t.key != k) = log.erase k :=
    List.filter_congr fun t _ => by rw [Bool.eq_iff_iff, bne_iff_ne, decide_eq_true_iff]
  rw [TermRule.filter_flatMap_postingsOf rule term (· != k), same]

theorem erase (h : x.Follows log) (k : SessionKey) : (x.erase k).Follows (log.erase k) where
  linked := h.linked.erase k
  tidy := tidy_erase h.tidy k
  distinct := h.distinct.erase k
  sessions a := by
    rw [sessions_erase, Log.find?_erase, rule_erase, h.sessions]
    split <;> rfl
  occurrences term := by
    rw [h.linked.occurrences_erase, h.occurrences, filter_postingsOf, rule_erase]

theorem reindex (h : x.Follows log) (t : Transcript) : (x.reindex t).Follows (log.keep t) where
  linked := h.linked.reindex t
  tidy := tidy_reindex h.tidy t
  distinct := h.distinct.keep t
  sessions a := by
    rw [sessions_reindex, Log.find?_keep, rule_reindex, h.sessions, ← told_eq_sessionOf]
    split <;> rfl
  occurrences term := by
    rw [h.linked.occurrences_reindex, h.occurrences, filter_postingsOf, rule_reindex, Log.keep,
      List.flatMap_append, List.flatMap_singleton]

theorem merge (h : x.Follows log) (batch : List Transcript) :
    (x.merge batch).Follows (log.merge batch) := by
  rw [Index.merge, Log.merge, Log.filter_isSound]
  induction Batch.accepted batch generalizing x log with
  | nil => exact h
  | cons t ts ih => exact ih (h.reindex t)

/-- **One change.**  An index that follows a log still does when both are changed. -/
theorem change (h : x.Follows log) (c : Change) : (x.change c).Follows (log.change c) := by
  cases c with
  | build batch => exact (empty x.rule).merge batch
  | merge batch => exact h.merge batch
  | remove k => exact h.erase k

theorem run (h : x.Follows log) (changes : List Change) :
    (x.run changes).Follows (changes.foldl Log.change log) := by
  induction changes generalizing x log with
  | nil => exact h
  | cons c changes ih => exact ih (h.change c)

end Follows

theorem rule_change (x : Index) (c : Change) : (x.change c).rule = x.rule := by
  cases c with
  | build batch => exact rule_merge ..
  | merge batch => exact rule_merge ..
  | remove k => exact rule_erase ..

theorem rule_run (x : Index) (changes : List Change) : (x.run changes).rule = x.rule := by
  induction changes generalizing x with
  | nil => rfl
  | cons c changes ih => exact (ih (x.change c)).trans (rule_change x c)

/-- An index that began empty follows the log of its changes. -/
theorem follows_run (rule : TermRule) (changes : List Change) :
    ((empty rule).run changes).Follows (Log.run changes) :=
  (Follows.empty rule).run changes

/-- **An index is its log.**  After any changes to an empty index it holds exactly the keys of the
log, each of which the log has once, with the attributes, the terms and the lines of its
transcript; and the list of a term is made of one occurrence for each time that a line of the log
has the term, in the order of the log and of the lines.  A term without occurrences has no list. -/
theorem run_follows_log (rule : TermRule) (changes : List Change) :
    ((empty rule).run changes).rule = rule ∧
    (Log.run changes).Pairwise (fun t u => t.key ≠ u.key) ∧
    (∀ k, ((empty rule).run changes).sessions.get? k =
      ((Log.run changes).find? (·.key = k)).map fun t =>
        ⟨t.attributes, .ofList (t.lines.flatMap fun l => rule.terms l.text), t.lines⟩) ∧
    ∀ term, ((empty rule).run changes).postings.get? term =
      if (Log.run changes).flatMap (rule.postingsOf term) = [] then none
      else some ((Log.run changes).flatMap (rule.postingsOf term)) := by
  have h := follows_run rule changes
  have hrule := rule_run (empty rule) changes
  refine ⟨hrule, h.distinct, fun k => ?_, fun term => ?_⟩
  · rw [h.sessions, hrule]
    rfl
  · rw [h.tidy.get?, h.occurrences, hrule]
    rfl

end Index

end TranscriptSearch
