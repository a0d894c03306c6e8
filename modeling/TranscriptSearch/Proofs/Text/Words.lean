import Mathlib.Data.List.Basic
import Mathlib.Data.List.DropRight
import TranscriptSearch.Text.Blank

/-!
# Text — words, squeezed and trimmed texts

A run ends at each character of another kind, so that the runs of two texts with such a character
between them are the runs of the one and of the other.  A text is known by its words as soon as it
is squeezed.

* `runs_append`, `runs_of_all`: the runs of two texts and of one run.
* `firstRun_induction`: induction on a text, run by run.
* `isCutInto_iff`: the runs of a text are the one way to cut it into maximal runs.
* `flatMap_runs`: runs of a narrower kind stand in runs of a wider one.
* `runs_intercalate`, `words_intercalate`: the runs and the words of some texts put side by side.
* `words_squeeze`: a text has its words still when it is squeezed.
* `squeeze_intercalate`: texts can be squeezed before they are put side by side.
* `squeeze_between`: what is squeezed between two parts without blanks stays between them.
* `infix_of_infix_intercalate`: a part without blanks of some texts is a part of one of them.
* `trim_eq_nil_iff`, `trim_trim`, `mem_of_mem_trim`: what is left of a trimmed text.
* `exists_trim`, `trim_between`: a trimmed text stands between blanks.
-/

namespace TranscriptSearch.Text

/-! ### Runs -/

section Runs

variable {p : Char → Bool}

theorem consRun_append (run : Text) (later more : List Text) :
    consRun run (later ++ more) = consRun run later ++ more := by
  cases run <;> rfl

/-- What gives nothing for the empty text passes over an empty run. -/
theorem flatMap_consRun {α : Type*} {f : Text → List α} (hf : f [] = []) (run : Text)
    (later : List Text) : (consRun run later).flatMap f = f run ++ later.flatMap f := by
  cases run with
  | nil => simp [consRun, hf]
  | cons c run => rfl

theorem splitRun_append {c : Char} (hc : p c = false) (s t : Text) :
    splitRun p (s ++ c :: t) = ((splitRun p s).1, (splitRun p s).2 ++ runs p t) := by
  induction s with
  | nil => simp [splitRun, hc, runs]
  | cons d s ih => cases hd : p d <;> simp [splitRun, hd, ih, consRun_append]

@[simp] theorem runs_nil : runs p [] = [] := rfl

/-- **A character of another kind ends a run.** -/
theorem runs_append {c : Char} (hc : p c = false) (s t : Text) :
    runs p (s ++ c :: t) = runs p s ++ runs p t := by
  rw [runs, splitRun_append hc, consRun_append]
  rfl

theorem splitRun_of_all {s : Text} (h : ∀ c ∈ s, p c = true) : splitRun p s = (s, []) := by
  induction s with
  | nil => rfl
  | cons c s ih =>
      obtain ⟨hc, hs⟩ := List.forall_mem_cons.1 h
      simp [splitRun, hc, ih hs]

/-- A text of one kind is one run. -/
theorem runs_of_all {s : Text} (hne : s ≠ []) (h : ∀ c ∈ s, p c = true) : runs p s = [s] := by
  obtain ⟨c, s, rfl⟩ := List.exists_cons_of_ne_nil hne
  rw [runs, splitRun_of_all h]
  rfl

theorem mem_consRun {w run : Text} {later : List Text} :
    w ∈ consRun run later ↔ (w = run ∧ run ≠ []) ∨ w ∈ later := by
  cases run <;> simp [consRun]

theorem splitRun_mem (s : Text) :
    (∀ c ∈ (splitRun p s).1, c ∈ s ∧ p c = true) ∧
      ∀ w ∈ (splitRun p s).2, w ≠ [] ∧ ∀ c ∈ w, c ∈ s ∧ p c = true := by
  induction s with
  | nil => simp [splitRun]
  | cons d s ih =>
      obtain ⟨hrun, hlater⟩ := ih
      cases hd : p d with
      | true =>
          simp only [splitRun, hd]
          refine ⟨?_, fun w hw => ⟨(hlater w hw).1, fun c hc => ?_⟩⟩
          · intro c hc
            rcases List.mem_cons.1 hc with rfl | hc
            · exact ⟨List.mem_cons_self, hd⟩
            · exact (hrun c hc).imp_left (List.mem_cons_of_mem d)
          · exact ((hlater w hw).2 c hc).imp_left (List.mem_cons_of_mem d)
      | false =>
          simp only [splitRun, hd]
          refine ⟨by simp, fun w hw => ?_⟩
          rcases mem_consRun.1 hw with ⟨rfl, hne⟩ | hw
          · exact ⟨hne, fun c hc => (hrun c hc).imp_left (List.mem_cons_of_mem d)⟩
          · exact ⟨(hlater w hw).1,
              fun c hc => ((hlater w hw).2 c hc).imp_left (List.mem_cons_of_mem d)⟩

/-- **A run is not empty, and its characters are those of one kind in the text.** -/
theorem of_mem_runs {s w : Text} (h : w ∈ runs p s) : w ≠ [] ∧ ∀ c ∈ w, c ∈ s ∧ p c = true := by
  obtain ⟨hrun, hlater⟩ := splitRun_mem (p := p) s
  rcases mem_consRun.1 h with ⟨rfl, hne⟩ | hw
  · exact ⟨hne, hrun⟩
  · exact hlater w hw

theorem runs_cons {c : Char} (hc : p c = false) (t : Text) : runs p (c :: t) = runs p t :=
  runs_append hc [] t

/-- What goes before the first run does not count. -/
theorem runs_append_of_none {s : Text} (h : ∀ c ∈ s, p c = false) (t : Text) :
    runs p (s ++ t) = runs p t := by
  induction s with
  | nil => rfl
  | cons c s ih =>
      obtain ⟨hc, hs⟩ := List.forall_mem_cons.1 h
      rw [List.cons_append, runs_cons hc, ih hs]

/-- A run that does not go on is followed by the runs of the rest. -/
theorem runs_append_of_head {w t : Text} (hne : w ≠ []) (hw : ∀ c ∈ w, p c = true)
    (ht : ∀ c ∈ t.head?, p c = false) : runs p (w ++ t) = w :: runs p t := by
  cases t with
  | nil => rw [List.append_nil, runs_of_all hne hw, runs_nil]
  | cons c t =>
      have hc : p c = false := ht c rfl
      rw [runs_append hc, runs_of_all hne hw, runs_cons hc]
      rfl

/-- The first run of a kind in a text: what goes before it, the run, and what comes after it. -/
structure IsFirstRun (p : Char → Bool) (t gap w rest : Text) : Prop where
  /-- The text is put together of the three. -/
  eq : t = gap ++ (w ++ rest)
  /-- No character before the run is of the kind. -/
  gap : ∀ c ∈ gap, p c = false
  /-- The run has a character. -/
  ne_nil : w ≠ []
  /-- All its characters are of the kind. -/
  run : ∀ c ∈ w, p c = true
  /-- The run does not go on. -/
  rest : ∀ c ∈ rest.head?, p c = false

/-- **A text has a first run of a kind**, unless it has no character of the kind. -/
theorem exists_isFirstRun (p : Char → Bool) (t : Text) :
    (∀ c ∈ t, p c = false) ∨ ∃ gap w rest, IsFirstRun p t gap w rest := by
  have gap : ∀ c ∈ t.takeWhile (!p ·), p c = false := by
    intro c hc
    simpa using List.mem_takeWhile_imp hc
  cases hrest : t.dropWhile (!p ·) with
  | nil =>
      refine .inl fun c hc => ?_
      simpa using List.dropWhile_eq_nil_iff.1 hrest c hc
  | cons c u =>
      have hc : p c = true := by
        have head := List.head_dropWhile_not (!p ·) (l := t) (by simp [hrest])
        simpa [hrest] using head
      refine .inr ⟨t.takeWhile (!p ·), (c :: u).takeWhile p, (c :: u).dropWhile p, ?_, gap, ?_, ?_,
        ?_⟩
      · rw [List.takeWhile_append_dropWhile, ← hrest, List.takeWhile_append_dropWhile]
      · simp [hc]
      · exact fun d hd => List.mem_takeWhile_imp hd
      · intro d hd
        have hne : (c :: u).dropWhile p ≠ [] := by
          intro hnil
          simp [hnil] at hd
        rw [List.head?_eq_some_head hne, Option.mem_some_iff] at hd
        rw [← hd]
        simpa using List.head_dropWhile_not p hne

/-- **The runs of a text** are the first one and those of the rest. -/
theorem IsFirstRun.runs {t gap w rest : Text} (h : IsFirstRun p t gap w rest) :
    runs p t = w :: runs p rest := by
  rw [h.eq, runs_append_of_none h.gap, runs_append_of_head h.ne_nil h.run h.rest]

theorem IsFirstRun.length_lt {t gap w rest : Text} (h : IsFirstRun p t gap w rest) :
    rest.length < t.length := by
  have := List.length_pos_iff.2 h.ne_nil
  rw [h.eq, List.length_append, List.length_append]
  omega

/-- **Induction run by run**: what holds of a text without the kind, and of a text when it holds of
what comes after the first run, holds of every text. -/
theorem firstRun_induction {motive : Text → Prop}
    (none : ∀ t, (∀ c ∈ t, p c = false) → motive t)
    (first : ∀ t gap w rest, IsFirstRun p t gap w rest → motive rest → motive t) (t : Text) :
    motive t := by
  induction hn : t.length using Nat.strong_induction_on generalizing t with
  | _ n ih =>
      obtain h | ⟨gap, w, rest, h⟩ := exists_isFirstRun p t
      · exact none t h
      · exact first t gap w rest h (ih rest.length (hn ▸ h.length_lt) rest rfl)

/-- The maximal runs of a kind in a text: each has a character, all its characters are of the kind,
and it ends with the text or in front of a character of another kind. -/
inductive IsCutInto (p : Char → Bool) : Text → List Text → Prop where
  /-- The empty text has no run. -/
  | nil : IsCutInto p [] []
  /-- A character of another kind is in no run. -/
  | gap {c : Char} {t : Text} {ws : List Text} (hc : p c = false) (h : IsCutInto p t ws) :
      IsCutInto p (c :: t) ws
  /-- A run goes to the end of the text. -/
  | last {w : Text} (hne : w ≠ []) (hw : ∀ c ∈ w, p c = true) : IsCutInto p w [w]
  /-- A run ends in front of a character of another kind. -/
  | run {w : Text} {c : Char} {t : Text} {ws : List Text} (hne : w ≠ []) (hw : ∀ d ∈ w, p d = true)
      (hc : p c = false) (h : IsCutInto p t ws) : IsCutInto p (w ++ c :: t) (w :: ws)

theorem IsCutInto.eq_runs {t : Text} {ws : List Text} (h : IsCutInto p t ws) :
    ws = Text.runs p t := by
  induction h with
  | nil => rfl
  | gap hc _ ih => rw [runs_cons hc, ih]
  | last hne hw => rw [runs_of_all hne hw]
  | run hne hw hc _ ih =>
      rw [runs_append hc, runs_of_all hne hw, ih]
      rfl

theorem IsCutInto.append {s t : Text} {ws : List Text} (hs : ∀ c ∈ s, p c = false)
    (h : IsCutInto p t ws) : IsCutInto p (s ++ t) ws := by
  induction s with
  | nil => exact h
  | cons c s ih =>
      obtain ⟨hc, hs⟩ := List.forall_mem_cons.1 hs
      exact .gap hc (ih hs)

/-- **A text is cut into its runs.** -/
theorem isCutInto_runs (p : Char → Bool) (t : Text) : IsCutInto p t (Text.runs p t) := by
  -- by the first run, since the text after it is shorter
  induction hn : t.length using Nat.strong_induction_on generalizing t with
  | _ n ih =>
      obtain none | ⟨gap, w, rest, hfirst⟩ := exists_isFirstRun p t
      · have runs : Text.runs p t = [] := by simpa using runs_append_of_none none []
        rw [runs]
        simpa using IsCutInto.append none .nil
      rw [hfirst.runs, hfirst.eq]
      refine .append hfirst.gap ?_
      cases rest with
      | nil => simpa using IsCutInto.last hfirst.ne_nil hfirst.run
      | cons c u =>
          have hc : p c = false := hfirst.rest c rfl
          have shorter : u.length < n := by
            have := hfirst.length_lt
            rw [List.length_cons] at this
            omega
          rw [runs_cons hc]
          exact .run hfirst.ne_nil hfirst.run hc (ih u.length shorter u rfl)

/-- **There is one way to cut a text into maximal runs.** -/
theorem isCutInto_iff {t : Text} {ws : List Text} : IsCutInto p t ws ↔ ws = Text.runs p t := by
  constructor
  · exact IsCutInto.eq_runs
  · rintro rfl
    exact isCutInto_runs p t

variable {q : Char → Bool}

theorem splitRun_eq_of_imp (h : ∀ c, q c = true → p c = true) (t : Text) :
    splitRun q t = ((splitRun q (splitRun p t).1).1,
      (splitRun q (splitRun p t).1).2 ++ (splitRun p t).2.flatMap (runs q)) := by
  induction t with
  | nil => rfl
  | cons c t ih =>
      cases hp : p c with
      | true => cases hq : q c <;> simp [splitRun, hp, hq, ih, consRun_append]
      | false =>
          have hq : q c = false := by
            rw [← Bool.not_eq_true]
            exact fun hq => by simp [h c hq] at hp
          simp only [splitRun, hp, hq, flatMap_consRun (f := runs q) rfl]
          rw [ih, consRun_append]
          rfl

/-- **Runs of a narrower kind** stand each in a run of the wider kind. -/
theorem flatMap_runs (h : ∀ c, q c = true → p c = true) (t : Text) :
    (runs p t).flatMap (runs q) = runs q t := by
  rw [runs, flatMap_consRun rfl, runs, ← consRun_append, runs, splitRun_eq_of_imp h t]

end Runs

/-! ### Texts side by side -/

theorem intercalate_append (c : Char) {ps qs : List Text} (hp : ps ≠ []) (hq : qs ≠ []) :
    [c].intercalate (ps ++ qs) = [c].intercalate ps ++ c :: [c].intercalate qs := by
  induction ps with
  | nil => exact absurd rfl hp
  | cons a ps ih =>
      cases ps with
      | nil =>
          rw [List.singleton_append, List.intercalate_cons_of_ne_nil hq, List.intercalate_singleton,
            List.append_assoc]
          rfl
      | cons b ps =>
          rw [List.cons_append, List.intercalate_cons_of_ne_nil (by simp), ih (by simp),
            List.intercalate_cons_cons, ← List.append_assoc]

/-- **The runs of texts with a character of another kind between them** are the runs of each. -/
theorem runs_intercalate {p : Char → Bool} {c : Char} (hc : p c = false) (ts : List Text) :
    runs p ([c].intercalate ts) = ts.flatMap (runs p) := by
  induction ts with
  | nil => rfl
  | cons t ts ih =>
      cases ts with
      | nil => simp
      | cons t₂ ts =>
          rw [List.intercalate_cons_cons, List.append_assoc, List.singleton_append,
            runs_append hc, ih]
          rfl

/-! ### Words -/

/-- A text without blanks, and not empty. -/
def IsWord (w : Text) : Prop := w ≠ [] ∧ ∀ c ∈ w, isBlank c = false

theorem isBlank_space : isBlank ' ' = true := by decide

theorem IsWord.append {w b : Text} (h : IsWord w) (hb : ∀ c ∈ b, isBlank c = false) :
    IsWord (w ++ b) := by
  refine ⟨by simp [h.1], fun c hc => ?_⟩
  rcases List.mem_append.1 hc with hc | hc
  · exact h.2 c hc
  · exact hb c hc

@[simp] theorem words_nil : words [] = [] := rfl

/-- **A blank parts words.** -/
theorem words_append {c : Char} (hc : isBlank c = true) (s t : Text) :
    words (s ++ c :: t) = words s ++ words t :=
  runs_append (by simp [hc]) s t

theorem words_cons {c : Char} (hc : isBlank c = true) (t : Text) : words (c :: t) = words t :=
  words_append hc [] t

theorem IsWord.words {w : Text} (h : IsWord w) : words w = [w] :=
  runs_of_all h.1 fun c hc => by simp [h.2 c hc]

theorem isWord_of_mem_words {t w : Text} (h : w ∈ words t) : IsWord w :=
  ⟨(of_mem_runs h).1, fun c hc => by simpa using ((of_mem_runs h).2 c hc).2⟩

theorem mem_of_mem_words {t w : Text} (h : w ∈ words t) {c : Char} (hc : c ∈ w) : c ∈ t :=
  ((of_mem_runs h).2 c hc).1

/-- The words of texts one space apart are the words of each. -/
theorem words_intercalate (ts : List Text) : words ([' '].intercalate ts) = ts.flatMap words :=
  runs_intercalate (by simp [isBlank_space]) ts

/-- **A text has its words still when it is squeezed.** -/
theorem words_squeeze (t : Text) : words (squeeze t) = words t := by
  rw [squeeze, words_intercalate]
  have each : ∀ w ∈ words t, words w = [w] := by
    intro w hw
    exact (isWord_of_mem_words hw).words
  rw [List.flatMap_congr each, List.flatMap_singleton']

theorem IsWord.squeeze {w : Text} (h : IsWord w) : squeeze w = w := by
  rw [Text.squeeze, h.words, List.intercalate_singleton]

theorem squeeze_eq_nil_iff {t : Text} : squeeze t = [] ↔ words t = [] := by
  constructor
  · intro h
    rw [← words_squeeze, h, words_nil]
  · intro h
    rw [squeeze, h]
    rfl

/-- **Texts can be squeezed before they are put side by side.** -/
theorem squeeze_intercalate (ts : List Text) :
    squeeze ([' '].intercalate ts) =
      [' '].intercalate ((ts.map squeeze).filter fun t => t ≠ []) := by
  induction ts with
  | nil => rfl
  | cons t ts ih =>
      rw [squeeze, words_intercalate] at ih ⊢
      rw [List.flatMap_cons, List.map_cons]
      by_cases ht : words t = []
      · rw [ht, List.nil_append, List.filter_cons_of_neg (by simp [squeeze_eq_nil_iff.2 ht]), ih]
      · have hs : squeeze t ≠ [] := fun h => ht (squeeze_eq_nil_iff.1 h)
        rw [List.filter_cons_of_pos (by simp [hs])]
        by_cases hts : ts.flatMap words = []
        · have none : (ts.map squeeze).filter (fun t => decide (t ≠ [])) = [] := by
            simpa [squeeze_eq_nil_iff] using hts
          rw [hts, none, List.append_nil, List.intercalate_singleton, squeeze]
        · have some : (ts.map squeeze).filter (fun t => decide (t ≠ [])) ≠ [] := by
            simpa [squeeze_eq_nil_iff] using hts
          rw [intercalate_append ' ' ht hts, ih, List.intercalate_cons_of_ne_nil some, squeeze]
          simp

theorem squeeze_append {c : Char} (hc : isBlank c = true) {s t : Text} (hs : words s ≠ [])
    (ht : words t ≠ []) : squeeze (s ++ c :: t) = squeeze s ++ ' ' :: squeeze t := by
  rw [squeeze, words_append hc, intercalate_append ' ' hs ht]
  rfl

theorem squeeze_cons {c : Char} (hc : isBlank c = true) (t : Text) :
    squeeze (c :: t) = squeeze t :=
  congrArg [' '].intercalate (words_cons hc t)

/-- One text is what is left of another when blanks are moved together: it has no new characters
but spaces, and is blank just when the other is. -/
structure Condenses (v v' : Text) : Prop where
  /-- There are no new characters but spaces. -/
  mem : ∀ c ∈ v', c ∈ v ∨ c = ' '
  /-- It is blank just when the other is. -/
  blank : v'.all isBlank = v.all isBlank

namespace Condenses

variable {v w : Text} {c : Char}

/-- A character that is no blank stays. -/
theorem cons (hc : isBlank c = false) (h : Condenses v w) : Condenses (c :: v) (c :: w) := by
  refine ⟨fun d hd => ?_, by simp [hc]⟩
  rcases List.mem_cons.1 hd with rfl | hd
  · exact .inl List.mem_cons_self
  · exact (h.mem d hd).imp_left (List.mem_cons_of_mem c)

/-- A blank may go. -/
theorem skip (hc : isBlank c = true) (h : Condenses v w) : Condenses (c :: v) w :=
  ⟨fun d hd => (h.mem d hd).imp_left (List.mem_cons_of_mem c), by simp [hc, h.blank]⟩

/-- A space may come. -/
theorem space (h : Condenses v w) : Condenses v (' ' :: w) := by
  refine ⟨fun d hd => ?_, by rw [List.all_cons, isBlank_space, Bool.true_and, h.blank]⟩
  rcases List.mem_cons.1 hd with rfl | hd
  · exact .inr rfl
  · exact h.mem d hd

end Condenses

/-- **What is squeezed between two parts without blanks stays between them**, condensed; and so does
what is squeezed in front of the second one. -/
theorem squeeze_between {b : Text} (hb : ∀ c ∈ b, isBlank c = false) (v : Text) :
    (∃ v', squeeze (v ++ b) = v' ++ b ∧ Condenses v v') ∧
      ∀ a, IsWord a → ∃ v', squeeze (a ++ v ++ b) = a ++ v' ++ b ∧ Condenses v v' := by
  induction v with
  | nil =>
      have self : Condenses [] [] := ⟨by simp, rfl⟩
      constructor
      · rcases eq_or_ne b [] with rfl | hne
        · exact ⟨[], rfl, self⟩
        · exact ⟨[], IsWord.squeeze ⟨hne, hb⟩, self⟩
      · intro a ha
        exact ⟨[], by simpa using (ha.append hb).squeeze, self⟩
  | cons c v ih =>
      obtain ⟨⟨u, hu, hcond⟩, after⟩ := ih
      cases hc : isBlank c with
      | false =>
          -- the character goes to the part in front
          have one : ∀ d ∈ [c], isBlank d = false := by simpa using hc
          constructor
          · obtain ⟨w, hw, hcond⟩ := after [c] ⟨by simp, one⟩
            exact ⟨c :: w, by simpa using hw, hcond.cons hc⟩
          · intro a ha
            obtain ⟨w, hw, hcond⟩ := after (a ++ [c]) (ha.append one)
            exact ⟨c :: w, by simpa using hw, hcond.cons hc⟩
      | true =>
          constructor
          · exact ⟨u, by rw [List.cons_append, squeeze_cons hc, hu], hcond.skip hc⟩
          · intro a ha
            have cut : a ++ c :: v ++ b = a ++ c :: (v ++ b) := by simp
            by_cases hv : words (v ++ b) = []
            · -- nothing but blanks comes after the part in front
              have hnil : u ++ b = [] := by rw [← hu, squeeze_eq_nil_iff.2 hv]
              obtain ⟨rfl, rfl⟩ := List.append_eq_nil_iff.1 hnil
              refine ⟨[], ?_, hcond.skip hc⟩
              rw [cut, squeeze, words_append hc, hv, ha.words]
              simp
            · refine ⟨' ' :: u, ?_, (hcond.skip hc).space⟩
              rw [cut, squeeze_append hc (by simp [ha.words]) hv, hu, ha.squeeze]
              simp

/-- A squeezed text is condensed. -/
theorem condenses_squeeze (t : Text) : Condenses t (squeeze t) := by
  obtain ⟨t', hsqueeze, hcondenses⟩ := (squeeze_between (b := []) (by simp) t).1
  rw [List.append_nil, List.append_nil] at hsqueeze
  rwa [hsqueeze]

/-- What is squeezed after a part without blanks stays there, condensed. -/
theorem squeeze_after {a : Text} (ha : IsWord a) (v : Text) :
    ∃ v', squeeze (a ++ v) = a ++ v' ∧ Condenses v v' := by
  obtain ⟨v', hsqueeze, hcondenses⟩ := (squeeze_between (b := []) (by simp) v).2 a ha
  rw [List.append_nil, List.append_nil] at hsqueeze
  exact ⟨v', hsqueeze, hcondenses⟩

/-! ### Parts of texts -/

/-- A part of a text does not reach over a character that it does not have. -/
theorem infix_or_infix {t s u : Text} {c : Char} (hc : c ∉ t) (h : t <:+: s ++ c :: u) :
    t <:+: s ∨ t <:+: u := by
  obtain ⟨a, b, hab⟩ := h
  rcases List.append_eq_append_iff.1 hab with ⟨more, hs, -⟩ | ⟨rest, hat, hrest⟩
  · exact .inl ⟨a, more, hs.symm⟩
  cases rest with
  | nil => exact .inl ⟨a, [], by simpa using hat⟩
  | cons d rest =>
      obtain ⟨rfl, hu⟩ := List.cons.inj hrest
      rcases List.append_eq_append_iff.1 hat with ⟨more, -, ht⟩ | ⟨more, -, ht⟩
      · exact absurd (ht ▸ List.mem_append_right more List.mem_cons_self) hc
      · cases more with
        | nil =>
            rw [List.nil_append] at ht
            exact absurd (ht ▸ List.mem_cons_self) hc
        | cons d more =>
            obtain ⟨-, rfl⟩ := List.cons.inj ht
            exact .inr ⟨more, b, hu.symm⟩

/-- A part without blanks of some texts one space apart is a part of one of them. -/
theorem infix_of_infix_intercalate {t : Text} (ht : IsWord t) {ws : List Text}
    (h : t <:+: [' '].intercalate ws) : ∃ w ∈ ws, t <:+: w := by
  have space : ' ' ∉ t := by
    intro hmem
    cases (ht.2 ' ' hmem).symm.trans isBlank_space
  induction ws with
  | nil => exact absurd (List.infix_nil.1 h) ht.1
  | cons w ws ih =>
      rcases eq_or_ne ws [] with rfl | hne
      · exact ⟨w, List.mem_cons_self, by simpa using h⟩
      rw [List.intercalate_cons_of_ne_nil hne, List.append_assoc, List.singleton_append] at h
      rcases infix_or_infix space h with h | h
      · exact ⟨w, List.mem_cons_self, h⟩
      · obtain ⟨w', hw', h⟩ := ih h
        exact ⟨w', List.mem_cons_of_mem w hw', h⟩

/-- Each of some texts is a part of them side by side. -/
theorem infix_intercalate {w : Text} {ws : List Text} (h : w ∈ ws) :
    w <:+: [' '].intercalate ws := by
  induction ws with
  | nil => cases h
  | cons v ws ih =>
      rcases eq_or_ne ws [] with rfl | hne
      · obtain rfl := List.mem_singleton.1 h
        simp
      rw [List.intercalate_cons_of_ne_nil hne]
      rcases List.mem_cons.1 h with rfl | h
      · exact ((List.prefix_append w _).trans (List.prefix_append _ _)).isInfix
      · exact (ih h).trans (List.suffix_append _ _).isInfix

/-! ### Trimmed texts -/

theorem trim_eq (t : Text) : trim t = (t.dropWhile isBlank).rdropWhile isBlank := rfl

/-- The characters of a trimmed text are those of the text. -/
theorem mem_of_mem_trim {t : Text} {c : Char} (h : c ∈ trim t) : c ∈ t := by
  have trimmed : trim t <+: t.dropWhile isBlank := List.rdropWhile_prefix isBlank _
  exact (List.dropWhile_suffix _).subset (trimmed.subset h)

/-- A trimmed text begins with no blank. -/
theorem isBlank_head_trim {t u : Text} {c : Char} (h : trim t = c :: u) : isBlank c = false := by
  obtain ⟨more, hmore⟩ := List.rdropWhile_prefix isBlank (t.dropWhile isBlank)
  rw [← trim_eq, h] at hmore
  have head := List.head_dropWhile_not isBlank (l := t) (by rw [← hmore]; simp)
  simpa [← hmore] using head

/-- Nothing is left of a text just when it is blank. -/
theorem trim_eq_nil_iff {t : Text} : trim t = [] ↔ t.all isBlank = true := by
  rw [trim_eq, List.rdropWhile_eq_nil_iff, List.all_eq_true]
  constructor
  · intro h
    by_contra hne
    rw [← List.dropWhile_eq_nil_iff] at hne
    have head := List.head_dropWhile_not isBlank hne
    rw [h _ (List.head_mem hne)] at head
    cases head
  · intro h c hc
    exact h c ((List.dropWhile_suffix _).subset hc)

theorem trim_trim (t : Text) : trim (trim t) = trim t := by
  cases h : trim t with
  | nil => rfl
  | cons c u =>
      rw [trim_eq, List.dropWhile_cons_of_neg (by simp [isBlank_head_trim h]), ← h, trim_eq,
        List.rdropWhile_idempotent]

/-- A text without blanks is not changed by trimming. -/
theorem trim_eq_self {t : Text} (h : ∀ c ∈ t, isBlank c = false) : trim t = t := by
  rw [trim_eq, List.dropWhile_eq_self_iff.2 fun hl => by simp [h _ (List.getElem_mem hl)],
    List.rdropWhile_eq_self_iff.2 fun hl => by simp [h _ (List.getLast_mem hl)]]

/-- **A trimmed text stands between blanks.** -/
theorem exists_trim (t : Text) : ∃ lead trail, (∀ c ∈ lead, isBlank c = true) ∧
    (∀ c ∈ trail, isBlank c = true) ∧ t = lead ++ trim t ++ trail := by
  refine ⟨t.takeWhile isBlank, (t.dropWhile isBlank).rtakeWhile isBlank, ?_, ?_, ?_⟩
  · exact fun c hc => List.mem_takeWhile_imp hc
  · exact fun c hc => List.mem_rtakeWhile_imp hc
  · rw [trim_eq, List.append_assoc, List.rdropWhile_append_rtakeWhile,
      List.takeWhile_append_dropWhile]

/-- Blanks around a text without blanks are what is trimmed. -/
theorem trim_between {lead t trail : Text} (hlead : ∀ c ∈ lead, isBlank c = true)
    (ht : ∀ c ∈ t, isBlank c = false) (htrail : ∀ c ∈ trail, isBlank c = true) :
    trim (lead ++ t ++ trail) = t := by
  cases t with
  | nil =>
      rw [List.append_nil, trim_eq_nil_iff, List.all_append, Bool.and_eq_true]
      exact ⟨List.all_eq_true.2 hlead, List.all_eq_true.2 htrail⟩
  | cons c t =>
      have first : (c :: t ++ trail).dropWhile isBlank = c :: t ++ trail :=
        List.dropWhile_cons_of_neg (by rw [ht c (List.mem_cons_self ..)]; decide)
      have last : (c :: t).rdropWhile isBlank = c :: t :=
        List.rdropWhile_eq_self_iff.2 fun hl => by
          rw [ht _ (List.getLast_mem hl)]
          decide
      rw [trim_eq, List.append_assoc, List.dropWhile_append_of_pos hlead, first,
        List.rdropWhile, List.reverse_append,
        List.dropWhile_append_of_pos fun d hd => htrail d (List.mem_reverse.1 hd)]
      exact last

end TranscriptSearch.Text
