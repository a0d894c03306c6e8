import TranscriptSearch.Proofs.Term
import TranscriptSearch.Proofs.Text.Places

/-!
# Terms — one after the other

The terms of a text can be drawn from it one at a time.  A stream keeps the text that was not read
yet; a draw cuts runs off it, at places that are counted in octets, until one is long enough to be a
term.  It could halt where a cut does not fall between two characters, and never does.

* `TermStream.turn`: the next run of a text and the text after it.
* `TermStream.next`, `TermStream.draw`, `TermStream.collect`: the next term, so many terms and all
  of them.
* `TermStream.turn_eq_some`, `TermStream.turn_eq_none`: a turn takes the first run.
* `TermStream.exists_next`, `TermStream.exists_draw`, `TermStream.collect_eq`: what is drawn is the
  front of the terms of the text, and the rest stays to be drawn.
* `TermRule.exists_next_stream`: a draw is one scan by characters.
* `TermRule.collect_stream`: the stream of a text against the runs that the text is cut into.
-/

namespace TranscriptSearch

open Text

/-- The terms of a text that are still to be drawn. -/
structure TermStream where
  /-- Which runs are terms. -/
  rule : TermRule
  /-- The text that was not read yet. -/
  rest : Text
deriving DecidableEq

/-- The terms of a text, before the first one is drawn. -/
def TermRule.stream (r : TermRule) (t : Text) : TermStream := ⟨r, t⟩

namespace TermStream

/-- The next run of a text and the text after it, if there is a run. -/
def turn (t : Text) : Except Miscut (Option (Text × Text)) :=
  match placeOf? isAlphanumeric t with
  | none => .ok none
  | some start => do
    let (_, tail) ← Text.split t start
    let stop := (placeOf? (!isAlphanumeric ·) tail).getD (utf8Length tail)
    return some (← Text.split tail stop)

/-- A text without alphanumeric characters has no next run. -/
theorem turn_eq_none {t : Text} (h : ∀ c ∈ t, isAlphanumeric c = false) : turn t = .ok none := by
  rw [turn, placeOf?_eq_none h]

/-- **A turn takes the first run**, and no cut falls inside a character. -/
theorem turn_eq_some {t gap w rest : Text} (h : IsFirstRun isAlphanumeric t gap w rest) :
    turn t = .ok (some (w, rest)) := by
  obtain ⟨c, w', hw⟩ := List.exists_cons_of_ne_nil h.ne_nil
  have start : placeOf? isAlphanumeric t = some (utf8Length gap) := by
    rw [h.eq, hw]
    exact placeOf?_append h.gap (h.run c (by simp [hw])) _
  have stop : (placeOf? (!isAlphanumeric ·) (w ++ rest)).getD (utf8Length (w ++ rest)) =
      utf8Length w := by
    refine getD_placeOf?_append (fun d hd => ?_) fun d hd => ?_
    · simp [h.run d hd]
    · simp [h.rest d hd]
  have before : Text.split t (utf8Length gap) = .ok (gap, w ++ rest) := by
    rw [h.eq]
    exact split_append gap (w ++ rest)
  simp only [turn, start, before, bind, Except.bind, stop, split_append]
  rfl

/-- **Every turn takes something of the text.** -/
theorem length_lt_of_turn {t w rest : Text} (h : turn t = .ok (some (w, rest))) :
    rest.length < t.length := by
  obtain none | ⟨gap, w', rest', hfirst⟩ := exists_isFirstRun isAlphanumeric t
  · rw [turn_eq_none none] at h
    cases h
  · rw [turn_eq_some hfirst] at h
    cases h
    exact hfirst.length_lt

/-- The next term, if there is one, and the stream after it.  Runs that are too short are passed
over. -/
def next (s : TermStream) : Except Miscut (Option Text × TermStream) :=
  match _h : turn s.rest with
  | .error miscut => .error miscut
  | .ok none => .ok (none, s)
  | .ok (some (w, rest)) =>
    if s.rule.minLength ≤ w.length then .ok (some (lowercase w), { s with rest })
    else next { s with rest }
termination_by s.rest.length
decreasing_by exact length_lt_of_turn (by assumption)

/-- The terms that are still to be drawn. -/
def terms (s : TermStream) : List Text := s.rule.terms s.rest

/-! ### The terms of a text by its first run -/

theorem terms_of_none (r : TermRule) {t : Text} (h : ∀ c ∈ t, isAlphanumeric c = false) :
    r.terms t = [] := by
  have runs : runs isAlphanumeric t = [] := by simpa using runs_append_of_none h []
  rw [TermRule.terms, runs]
  rfl

variable {r : TermRule} {t gap w rest : Text}

theorem terms_of_le (h : IsFirstRun isAlphanumeric t gap w rest)
    (hlength : r.minLength ≤ w.length) :
    r.terms t = lowercase w :: r.terms rest := by
  rw [TermRule.terms, h.runs, List.filter_cons_of_pos (by simpa using hlength), List.map_cons]
  rfl

theorem terms_of_not_le (h : IsFirstRun isAlphanumeric t gap w rest)
    (hlength : ¬ r.minLength ≤ w.length) : r.terms t = r.terms rest := by
  rw [TermRule.terms, h.runs, List.filter_cons_of_neg (by simpa using hlength)]
  rfl

/-! ### Drawing -/

/-- What a draw does after a turn. -/
theorem next_eq (s : TermStream) :
    s.next = match turn s.rest with
      | .error miscut => .error miscut
      | .ok none => .ok (none, s)
      | .ok (some (w, rest)) =>
        if s.rule.minLength ≤ w.length then .ok (some (lowercase w), { s with rest })
        else next { s with rest } := by
  rw [next]
  split
  next hturn => rw [hturn]
  next hturn => rw [hturn]
  next hturn => rw [hturn]

/-- **A draw yields the next term and leaves the terms after it**, and no cut falls inside a
character. -/
theorem exists_next (s : TermStream) :
    ∃ s', s.next = .ok (s.terms.head?, s') ∧ s'.terms = s.terms.tail := by
  obtain ⟨r, t⟩ := s
  rw [terms]
  induction t using firstRun_induction (p := isAlphanumeric) with
  | none t hnone =>
      have noTerms := terms_of_none r hnone
      rw [next_eq, turn_eq_none hnone, noTerms]
      exact ⟨⟨r, t⟩, rfl, noTerms⟩
  | first t gap w rest hfirst ih =>
      rw [next_eq, turn_eq_some hfirst]
      by_cases hlength : r.minLength ≤ w.length
      · rw [terms_of_le hfirst hlength]
        exact ⟨⟨r, rest⟩, if_pos hlength, rfl⟩
      · rw [terms_of_not_le hfirst hlength]
        obtain ⟨s', hnext, hterms⟩ := ih
        exact ⟨s', (if_neg hlength).trans hnext, hterms⟩

/-- A draw that yields a term takes something of the text. -/
theorem length_lt_of_next {s s' : TermStream} {w : Text} (h : s.next = .ok (some w, s')) :
    s'.rest.length < s.rest.length := by
  obtain ⟨r, t⟩ := s
  induction t using firstRun_induction (p := isAlphanumeric) with
  | none t hnone =>
      rw [next_eq, turn_eq_none hnone] at h
      cases h
  | first t gap v rest hfirst ih =>
      rw [next_eq, turn_eq_some hfirst] at h
      simp only at h
      split at h
      next =>
        cases h
        exact hfirst.length_lt
      next => exact (ih h).trans hfirst.length_lt

/-- The next `k` terms, or all of them when they are fewer, and the stream after them. -/
def draw : Nat → TermStream → Except Miscut (List Text × TermStream)
  | 0, s => .ok ([], s)
  | k + 1, s => do
    match ← s.next with
    | (none, s') => return ([], s')
    | (some w, s') =>
      let (ws, s'') ← draw k s'
      return (w :: ws, s'')

/-- All terms that are still to be drawn. -/
def collect (s : TermStream) : Except Miscut (List Text) :=
  match _h : s.next with
  | .error miscut => .error miscut
  | .ok (none, _) => .ok []
  | .ok (some w, s') => (collect s').map (w :: ·)
termination_by s.rest.length
decreasing_by exact length_lt_of_next (by assumption)

/-- **So many draws yield the front of the terms and leave the rest of them.** -/
theorem exists_draw (k : Nat) (s : TermStream) :
    ∃ s', s.draw k = .ok (s.terms.take k, s') ∧ s'.terms = s.terms.drop k := by
  induction k generalizing s with
  | zero => exact ⟨s, rfl, rfl⟩
  | succ k ih =>
      obtain ⟨s', hnext, hterms⟩ := s.exists_next
      cases hs : s.terms with
      | nil =>
          rw [hs] at hnext hterms
          refine ⟨s', ?_, hterms⟩
          simp only [draw, hnext]
          rfl
      | cons w ws =>
          rw [hs] at hnext hterms
          obtain ⟨s'', hdraw, hrest⟩ := ih s'
          rw [hterms] at hdraw hrest
          refine ⟨s'', ?_, hrest⟩
          simp only [draw, hnext, bind, Except.bind, List.head?_cons, hdraw]
          rfl

theorem collect_step (s : TermStream) :
    s.collect = match s.next with
      | .error miscut => .error miscut
      | .ok (none, _) => .ok []
      | .ok (some w, s') => s'.collect.map (w :: ·) := by
  rw [collect]
  split
  next hnext => rw [hnext]
  next hnext => rw [hnext]
  next hnext => rw [hnext]

/-- **A stream ends, and yields all of its terms.** -/
theorem collect_eq (s : TermStream) : s.collect = .ok s.terms := by
  induction hterms : s.terms generalizing s with
  | nil =>
      obtain ⟨s', hnext, -⟩ := s.exists_next
      rw [hterms] at hnext
      rw [collect_step, hnext]
      rfl
  | cons w ws ih =>
      obtain ⟨s', hnext, hrest⟩ := s.exists_next
      rw [hterms] at hnext hrest
      rw [collect_step, hnext]
      simp only [List.head?_cons, ih s' hrest]
      rfl

end TermStream

namespace TermRule

/-! ### The scan by characters

`next?` does not count octets: it goes over the characters and keeps those of the run. -/

variable {r : TermRule} {t gap w rest : Text}

theorem nextAfter_append (r : TermRule) (back : Text) (hw : ∀ c ∈ w, isAlphanumeric c = true)
    (t : Text) : r.nextAfter back (w ++ t) = r.nextAfter (w.reverse ++ back) t := by
  induction w generalizing back with
  | nil => rfl
  | cons c w ih =>
      obtain ⟨hc, hw⟩ := List.forall_mem_cons.1 hw
      rw [List.cons_append, nextAfter, if_pos hc, ih (c :: back) hw, List.reverse_cons,
        List.append_assoc]
      rfl

theorem next?_cons (r : TermRule) {c : Char} (hc : isAlphanumeric c = false) (t : Text) :
    r.next? (c :: t) = r.next? t := by
  have hlength := r.minLength_pos
  rw [next?, nextAfter, if_neg (by simp [hc]), if_neg (by simp; omega)]
  rfl

theorem next?_append (r : TermRule) (h : ∀ c ∈ gap, isAlphanumeric c = false) (t : Text) :
    r.next? (gap ++ t) = r.next? t := by
  induction gap with
  | nil => rfl
  | cons c gap ih =>
      obtain ⟨hc, hgap⟩ := List.forall_mem_cons.1 h
      rw [List.cons_append, r.next?_cons hc, ih hgap]

theorem next?_nil (r : TermRule) : r.next? [] = none :=
  if_neg (Nat.not_le.2 r.minLength_pos)

/-- A run that ends is a term, or the scan goes on after it. -/
theorem nextAfter_of_head (r : TermRule) (back : Text)
    (h : ∀ c ∈ t.head?, isAlphanumeric c = false) :
    r.nextAfter back t =
      if r.minLength ≤ back.length then some (lowercase back.reverse, t) else r.next? t := by
  cases t with
  | nil => rw [next?_nil, nextAfter]
  | cons c t =>
      have hc : isAlphanumeric c = false := h c rfl
      rw [next?_cons r hc, nextAfter, if_neg (by simp [hc])]
      rfl

theorem next?_of_isFirstRun (r : TermRule) (h : IsFirstRun isAlphanumeric t gap w rest) :
    r.next? t = if r.minLength ≤ w.length then some (lowercase w, rest) else r.next? rest := by
  rw [h.eq, r.next?_append h.gap, next?, r.nextAfter_append [] h.run, r.nextAfter_of_head _ h.rest]
  simp

theorem next?_of_none (r : TermRule) (h : ∀ c ∈ t, isAlphanumeric c = false) :
    r.next? t = none := by
  simpa [next?_nil] using r.next?_append h []

/-- **A draw finds what the scan by characters finds**, and leaves the text that the scan leaves. -/
theorem exists_next_stream (r : TermRule) (t : Text) :
    ∃ s, (r.stream t).next = .ok ((r.next? t).map Prod.fst, s) ∧
      ∀ w rest, r.next? t = some (w, rest) → s = r.stream rest := by
  induction t using firstRun_induction (p := isAlphanumeric) with
  | none t hnone =>
      rw [TermStream.next_eq, stream, TermStream.turn_eq_none hnone, r.next?_of_none hnone]
      exact ⟨r.stream t, rfl, by simp⟩
  | first t gap w rest hfirst ih =>
      rw [TermStream.next_eq, stream, TermStream.turn_eq_some hfirst, r.next?_of_isFirstRun hfirst]
      by_cases hlength : r.minLength ≤ w.length
      · rw [if_pos hlength]
        refine ⟨r.stream rest, if_pos hlength, fun w' rest' h => ?_⟩
        cases h
        rfl
      · rw [if_neg hlength]
        obtain ⟨s, hnext, hrest⟩ := ih
        exact ⟨s, (if_neg hlength).trans hnext, hrest⟩

/-- **The terms of a text, drawn one after the other.**  For every text and every least length `n`:
drawing ends without a cut inside a character, and yields the lower case of each maximal run of
alphanumeric characters that has at least `n` of them, and at least one, in their order; a stream
that is left after any number of draws still yields all the terms that were not drawn, and each draw
is one scan by characters; and a character that is not alphanumeric parts the terms. -/
theorem collect_stream (n : Nat) :
    (∀ t, ∃ ws, IsCutInto isAlphanumeric t ws ∧
      (∀ ws', IsCutInto isAlphanumeric t ws' → ws' = ws) ∧
      ((ofMinLength n).stream t).collect =
        .ok ((ws.filter fun w => max n 1 ≤ w.length).map lowercase) ∧
      ((ofMinLength n).stream t).collect = .ok ((ofMinLength n).terms t)) ∧
    (∀ t k, ∃ s,
      ((ofMinLength n).stream t).draw k = .ok (((ofMinLength n).terms t).take k, s) ∧
      s.collect = .ok (((ofMinLength n).terms t).drop k)) ∧
    (∀ t, ∃ s, ((ofMinLength n).stream t).next = .ok (((ofMinLength n).next? t).map Prod.fst, s) ∧
      ∀ w rest, (ofMinLength n).next? t = some (w, rest) → s = (ofMinLength n).stream rest) ∧
    ∀ c, isAlphanumeric c = false → ∀ a b, ∃ xs ys,
      ((ofMinLength n).stream a).collect = .ok xs ∧ ((ofMinLength n).stream b).collect = .ok ys ∧
      ((ofMinLength n).stream (a ++ c :: b)).collect = .ok (xs ++ ys) := by
  refine ⟨fun t => ?_, fun t k => ?_, exists_next_stream _, fun c hc a b => ?_⟩
  · refine ⟨runs isAlphanumeric t, isCutInto_iff.2 rfl, fun ws' => isCutInto_iff.1, ?_, ?_⟩
    · exact TermStream.collect_eq _
    · exact TermStream.collect_eq _
  · obtain ⟨s, hdraw, hrest⟩ := TermStream.exists_draw k ((ofMinLength n).stream t)
    refine ⟨s, hdraw, ?_⟩
    rw [TermStream.collect_eq, hrest]
    rfl
  · refine ⟨_, _, TermStream.collect_eq _, TermStream.collect_eq _, ?_⟩
    rw [TermStream.collect_eq]
    exact congrArg Except.ok (terms_append _ hc a b)

/-- A run of one character is too short for a least length of two, and a hyphen parts terms. -/
theorem collect_stream_two :
    isAlphanumeric '-' = false ∧
      ((ofMinLength 2).stream "ÉÉ ü-ab".toList).collect = .ok ["éé".toList, "ab".toList] := by
  obtain ⟨_, _, _, _, left⟩ := (collect_stream 2).1 "ÉÉ ü".toList
  obtain ⟨_, _, _, _, right⟩ := (collect_stream 2).1 "ab".toList
  obtain ⟨xs, ys, hxs, hys, both⟩ :=
    (collect_stream 2).2.2.2 '-' (by decide) "ÉÉ ü".toList "ab".toList
  obtain rfl := Except.ok.inj (hxs.symm.trans left)
  obtain rfl := Except.ok.inj (hys.symm.trans right)
  refine ⟨by decide, both.trans (congrArg Except.ok ?_)⟩
  decide

end TermRule

end TranscriptSearch
