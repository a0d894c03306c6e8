import Mathlib.Data.List.Basic
import TranscriptSearch.Text.Alphanumeric
import TranscriptSearch.Text.Blank
import TranscriptSearch.Text.Casing

/-!
# Text — the case of ASCII letters

`foldCase` puts the ASCII letters of a text in lower case and leaves all else as it is.  No property
by which a text is cut tells a letter from its lower case, so a text can be folded before it is cut
or after.  Its lower case is the same, since a final sigma looks at whether its neighbours are
cased, and not at their case.

* `eq_of_asciiLower`: what does not tell the 26 letters apart from their lower cases.
* `runs_foldCase`, `words_foldCase`, `squeeze_foldCase`, `trim_foldCase`: a folded text is cut
  alike.
* `lowercase_foldCase`: a folded text has the lower case of the text.
-/

namespace TranscriptSearch.Text

/-- A text with its ASCII letters in lower case. -/
def foldCase (t : Text) : Text := t.map asciiLower

/-! ### Characters -/

/-- A character is left alone, or is one of 26 letters. -/
theorem asciiLower_eq_or (c : Char) :
    asciiLower c = c ∨ ∃ n < 26, c = Char.ofNat (65 + n) ∧ asciiLower c = Char.ofNat (97 + n) := by
  rw [asciiLower]
  split
  next h =>
    obtain ⟨hfirst, hlast⟩ := h
    have hA : 65 ≤ c.toNat := hfirst
    have hZ : c.toNat ≤ 90 := hlast
    refine .inr ⟨c.toNat - 65, by omega, ?_, ?_⟩
    · rw [Nat.add_sub_cancel' hA, Char.ofNat_toNat]
    · rw [show 97 + (c.toNat - 65) = c.toNat + 32 by omega]
  next => exact .inl rfl

/-- **What does not tell the 26 letters from their lower cases** does not tell any character from
its own. -/
theorem eq_of_asciiLower {α : Type*} {f : Char → α}
    (h : ∀ n < 26, f (Char.ofNat (97 + n)) = f (Char.ofNat (65 + n))) (c : Char) :
    f (asciiLower c) = f c := by
  obtain hsame | ⟨n, hn, hc, hlower⟩ := asciiLower_eq_or c
  · rw [hsame]
  · rw [hlower, h n hn, ← hc]

theorem asciiLower_asciiLower (c : Char) : asciiLower (asciiLower c) = asciiLower c :=
  eq_of_asciiLower (f := asciiLower) (by decide) c

theorem isBlank_asciiLower (c : Char) : isBlank (asciiLower c) = isBlank c :=
  eq_of_asciiLower (by decide) c

theorem isAlphanumeric_asciiLower (c : Char) : isAlphanumeric (asciiLower c) = isAlphanumeric c :=
  eq_of_asciiLower (by decide) c

theorem isCased_asciiLower (c : Char) : isCased (asciiLower c) = isCased c :=
  eq_of_asciiLower (by decide) c

theorem isCaseIgnorable_asciiLower (c : Char) :
    isCaseIgnorable (asciiLower c) = isCaseIgnorable c :=
  eq_of_asciiLower (by decide) c

theorem lowercaseChar_asciiLower (c : Char) : lowercaseChar (asciiLower c) = lowercaseChar c :=
  eq_of_asciiLower (by decide) c

/-- Only letters come from folding. -/
theorem asciiLower_eq_iff {k : Char}
    (hk : ∀ n < 26, Char.ofNat (97 + n) ≠ k ∧ Char.ofNat (65 + n) ≠ k) (c : Char) :
    asciiLower c = k ↔ c = k := by
  have same : decide (asciiLower c = k) = decide (c = k) := by
    refine eq_of_asciiLower (f := fun c => decide (c = k)) (fun n hn => ?_) c
    rw [decide_eq_false (hk n hn).1, decide_eq_false (hk n hn).2]
  simpa using same

/-! ### Texts -/

@[simp] theorem foldCase_cons (c : Char) (t : Text) :
    foldCase (c :: t) = asciiLower c :: foldCase t := rfl

@[simp] theorem foldCase_append (s t : Text) : foldCase (s ++ t) = foldCase s ++ foldCase t :=
  List.map_append

@[simp] theorem foldCase_reverse (t : Text) : foldCase t.reverse = (foldCase t).reverse :=
  List.map_reverse

@[simp] theorem length_foldCase (t : Text) : (foldCase t).length = t.length := List.length_map ..

@[simp] theorem foldCase_eq_nil_iff {t : Text} : foldCase t = [] ↔ t = [] := List.map_eq_nil_iff

@[simp] theorem foldCase_foldCase (t : Text) : foldCase (foldCase t) = foldCase t := by
  rw [foldCase, foldCase, List.map_map]
  exact List.map_congr_left fun c _ => asciiLower_asciiLower c

theorem foldCase_intercalate {c : Char} (hc : asciiLower c = c) (ts : List Text) :
    foldCase ([c].intercalate ts) = [c].intercalate (ts.map foldCase) := by
  induction ts with
  | nil => rfl
  | cons t ts ih =>
      cases ts with
      | nil => simp
      | cons u ts => simpa [List.intercalate_cons_cons, hc] using ih

/-! ### Cutting a folded text -/

section Runs

variable {p : Char → Bool}

theorem consRun_foldCase (run : Text) (later : List Text) :
    consRun (foldCase run) (later.map foldCase) = (consRun run later).map foldCase := by
  cases run <;> rfl

theorem splitRun_foldCase (hp : ∀ c, p (asciiLower c) = p c) (t : Text) :
    splitRun p (foldCase t) = (foldCase (splitRun p t).1, (splitRun p t).2.map foldCase) := by
  induction t with
  | nil => rfl
  | cons c t ih =>
      rw [foldCase_cons, splitRun, splitRun, hp, ih]
      cases p c with
      | true => rfl
      | false => rw [← consRun_foldCase]; rfl

/-- **A folded text has the runs of the text, folded**, if the kind does not tell letters from their
lower cases. -/
theorem runs_foldCase (hp : ∀ c, p (asciiLower c) = p c) (t : Text) :
    runs p (foldCase t) = (runs p t).map foldCase := by
  rw [runs, splitRun_foldCase hp, consRun_foldCase]
  rfl

end Runs

theorem words_foldCase (t : Text) : words (foldCase t) = (words t).map foldCase :=
  runs_foldCase (fun c => by rw [isBlank_asciiLower]) t

theorem squeeze_foldCase (t : Text) : squeeze (foldCase t) = foldCase (squeeze t) := by
  rw [squeeze, words_foldCase, squeeze, foldCase_intercalate (by decide)]

theorem dropWhile_isBlank_foldCase (t : Text) :
    (foldCase t).dropWhile isBlank = foldCase (t.dropWhile isBlank) := by
  rw [foldCase, List.dropWhile_map]
  congr 2
  exact funext isBlank_asciiLower

theorem trim_foldCase (t : Text) : trim (foldCase t) = foldCase (trim t) := by
  rw [trim, trim, dropWhile_isBlank_foldCase, ← foldCase_reverse, dropWhile_isBlank_foldCase,
    foldCase_reverse]

/-! ### The lower case of a folded text -/

theorem startsCased_foldCase (t : Text) : startsCased (foldCase t) = startsCased t := by
  induction t with
  | nil => rfl
  | cons c t ih =>
      rw [foldCase_cons, startsCased, startsCased, isCaseIgnorable_asciiLower, isCased_asciiLower,
        ih]

theorem lowercaseAfter_foldCase (before t : Text) :
    lowercaseAfter (foldCase before) (foldCase t) = lowercaseAfter before t := by
  induction t generalizing before with
  | nil => rfl
  | cons c t ih =>
      have sigma : asciiLower c = 'Σ' ↔ c = 'Σ' := asciiLower_eq_iff (by decide) c
      rw [foldCase_cons, lowercaseAfter, lowercaseAfter, startsCased_foldCase, startsCased_foldCase,
        lowercaseChar_asciiLower, ← foldCase_cons, ih]
      simp only [sigma]

/-- **A folded text has the lower case of the text.** -/
theorem lowercase_foldCase (t : Text) : lowercase (foldCase t) = lowercase t :=
  lowercaseAfter_foldCase [] t

/-- Texts that differ in the case of ASCII letters only are those with one folded text. -/
theorem eqIgnoringAsciiCase_iff {s t : Text} :
    eqIgnoringAsciiCase s t = true ↔ foldCase s = foldCase t := beq_iff_eq

theorem eqIgnoringAsciiCase_foldCase (s t : Text) :
    eqIgnoringAsciiCase s (foldCase t) = eqIgnoringAsciiCase s t := by
  rw [Bool.eq_iff_iff, eqIgnoringAsciiCase_iff, eqIgnoringAsciiCase_iff, foldCase_foldCase]

end TranscriptSearch.Text
