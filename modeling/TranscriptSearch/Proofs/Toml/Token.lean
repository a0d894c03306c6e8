import TranscriptSearch.Proofs.Number.Decimal
import TranscriptSearch.Toml.Token
import TranscriptSearch.Toml.Writer

/-!
# Toml — the tokens of what is written

In triple quotes a quote may be content or the first of those that close the string, so the
reader holds back how many came last. What is inside a string is therefore followed with the
number `n` of quotes that are held back: the writer never puts more than two of them next to one
another, and with the three at the end they are at most five.

* `scan_escaped`, `scan_raw`: content with escapes, and content as it is, up to the quotes that
  close it.
* `scan_writeString`: **a written string is one token**, and its text is the one written.
* `scan_writeStrings`: the tokens of an array of strings.
* `scan_writePair`: the tokens of a line that sets a key.
-/

namespace TranscriptSearch.Toml

open Number
open Reading (gap scan start after endsRun stepContent stepEscape)

/-! ### One character -/

namespace Reading

@[simp] theorem step_gap (c : Char) : gap.step c = start c := rfl

@[simp] theorem step_blank (back : Text) (c : Char) :
    (blank back).step c =
      if c = ' ' ∨ c = '\t' then ([], .blank (c :: back)) else after [.blank back.reverse] c :=
  rfl

@[simp] theorem step_run (back : Text) (c : Char) :
    (run back).step c =
      if endsRun c then after [.run back.reverse] c else ([], .run (c :: back)) :=
  rfl

@[simp] theorem step_quote (q c : Char) :
    (quotes q false).step c =
      if c = q then ([], .quotes q true) else stepContent ⟨q, false, []⟩ 0 c :=
  rfl

@[simp] theorem step_quotes (q c : Char) :
    (quotes q true).step c =
      if c = q then ([], .string ⟨q, true, []⟩ .fresh) else after [.string false []] c :=
  rfl

@[simp] theorem step_fresh (s : OpenString) (c : Char) :
    (string s .fresh).step c =
      if c = '\n' then ([], .string s (.content 0))
      else if c = '\r' then ([], .string s (.afterReturn false))
      else stepContent s 0 c :=
  rfl

@[simp] theorem step_content (s : OpenString) (n : Nat) (c : Char) :
    (string s (.content n)).step c = stepContent s n c :=
  rfl

@[simp] theorem step_escape (s : OpenString) (c : Char) :
    (string s .escape).step c = stepEscape s c :=
  rfl

@[simp] theorem step_hex (s : OpenString) (left value : Nat) (c : Char) :
    (string s (.hex left value)).step c =
      match hexValue? c with
      | none => ([.fault], .lost)
      | some d =>
        if left ≤ 1 then
          if (16 * value + d).isValidChar then
            ([], .string (s.push (Char.ofNat (16 * value + d))) (.content 0))
          else ([.fault], .lost)
        else ([], .string s (.hex (left - 1) (16 * value + d))) :=
  rfl

end Reading

variable {c : Char} {rest : Text}

/-! ### Between tokens -/

theorem scan_blank_end (hc : ¬(c = ' ' ∨ c = '\t')) (back rest : Text) :
    (Reading.blank back).scan (c :: rest) = .blank back.reverse :: gap.scan (c :: rest) := by
  simp [scan, after, hc]

theorem scan_run_end (hc : endsRun c = true) (back rest : Text) :
    (Reading.run back).scan (c :: rest) = .run back.reverse :: gap.scan (c :: rest) := by
  simp [scan, after, hc]

/-- The characters that do not begin a run. -/
def marks : Text :=
  ['.', '=', ',', '[', ']', '{', '}', '\n', '\r', ' ', '\t', '#', '"', '\'']

theorem start_of_notMem_marks (hc : c ∉ marks) : start c = ([], .run [c]) := by
  simp only [marks, List.mem_cons, List.not_mem_nil, or_false, not_or] at hc
  simp [start, hc]

theorem endsRun_of_notMem_marks (hc : c ∉ marks) : endsRun c = false := by
  simp only [marks, List.mem_cons, List.not_mem_nil, or_false, not_or] at hc
  simp [endsRun, hc]

theorem notMem_marks_of_isDigit (hc : isDigit c = true) : c ∉ marks := by
  intro hmem
  have none : marks.all (fun d => !isDigit d) = true := by decide
  have := List.all_eq_true.1 none c hmem
  rw [hc] at this
  cases this

theorem scan_run {t : Text} (ht : ∀ d ∈ t, d ∉ marks) (back : Text) :
    (Reading.run back).scan (t ++ rest) = (Reading.run (t.reverse ++ back)).scan rest := by
  induction t generalizing back with
  | nil => rfl
  | cons d t ih =>
      rw [List.forall_mem_cons] at ht
      have hstep : (Reading.run back).step d = ([], .run (d :: back)) := by
        rw [Reading.step_run, endsRun_of_notMem_marks ht.1]
        rfl
      rw [List.cons_append, scan, hstep, List.nil_append, ih ht.2, List.reverse_cons,
        List.append_assoc, List.singleton_append]

/-- **A text without marks is one run**, up to a character that ends it. -/
theorem scan_word {t : Text} (hne : t ≠ []) (ht : ∀ d ∈ t, d ∉ marks) (hc : endsRun c = true) :
    gap.scan (t ++ c :: rest) = .run t :: gap.scan (c :: rest) := by
  obtain ⟨d, t, rfl⟩ := List.exists_cons_of_ne_nil hne
  rw [List.forall_mem_cons] at ht
  rw [List.cons_append, scan, Reading.step_gap, start_of_notMem_marks ht.1, List.nil_append,
    scan_run ht.2, scan_run_end hc, List.reverse_append, List.reverse_reverse,
    List.reverse_singleton, List.singleton_append]

/-! ### Quotes -/

/-- How many quotes in a row may be content as they are. -/
def innerQuotes : (isTriple : Bool) → Nat
  | true  => 2
  | false => 0

/-- The quotes around a string. -/
def fence (q : Char) : (isTriple : Bool) → Text
  | true  => [q, q, q]
  | false => [q]

/-- In a string, after `n` quotes that may belong to the closing ones. -/
abbrev inside (q : Char) (isTriple : Bool) (back : Text) (n : Nat) : Reading :=
  .string ⟨q, isTriple, back⟩ (.content n)

variable {q : Char} {isTriple : Bool} {n : Nat}

theorem innerQuotes_le (isTriple : Bool) : innerQuotes isTriple ≤ 2 := by
  cases isTriple <;> decide

/-- One more quote inside triple quotes. -/
theorem scan_quote (hn : n < innerQuotes isTriple) (back : Text) :
    (inside q isTriple back n).scan (q :: rest) = (inside q isTriple back (n + 1)).scan rest := by
  cases isTriple with
  | false => exact absurd hn (Nat.not_lt_zero n)
  | true =>
      have hfive : n < 5 := Nat.lt_trans hn (by decide)
      simp [scan, stepContent, hfive]

/-- Another character shows that the quotes held back are content. -/
theorem scan_notQuote (hn : n ≤ innerQuotes isTriple) (hc : c ≠ q) (back : Text) :
    (inside q isTriple back n).scan (c :: rest) =
      (inside q isTriple (List.replicate n q ++ back) 0).scan (c :: rest) := by
  have hthree : ¬3 ≤ n := by
    have := innerQuotes_le isTriple
    omega
  simp [scan, stepContent, hc, hthree]

/-- **The closing quotes**: of all quotes at the end they are the last. -/
theorem scan_fence (hn : n ≤ innerQuotes isTriple) (hc : c ≠ q) (back : Text) :
    (inside q isTriple back n).scan (fence q isTriple ++ c :: rest) =
      .string isTriple (back.reverse ++ List.replicate n q) :: gap.scan (c :: rest) := by
  cases isTriple with
  | false =>
      obtain rfl : n = 0 := Nat.le_zero.1 hn
      simp [fence, scan, stepContent, OpenString.close]
  | true =>
      have hn : n ≤ 2 := hn
      have h₁ : n < 5 := by omega
      have h₂ : n + 1 < 5 := by omega
      have h₃ : n + 2 < 5 := by omega
      simp [fence, scan, stepContent, after, OpenString.closeAfter, hc, h₁, h₂, h₃]

/-! ### Content with escapes -/

theorem hexValue?_upperHex : ∀ n < 16, hexValue? (Nat.digitChar n).toUpper = some n := by decide

/-- A hexadecimal digit that is not the last one. -/
theorem scan_hex {left value d : Nat} {s : OpenString} (hc : hexValue? c = some d)
    (hleft : ¬left ≤ 1) :
    (Reading.string s (.hex left value)).scan (c :: rest) =
      (Reading.string s (.hex (left - 1) (16 * value + d))).scan rest := by
  simp only [scan, Reading.step_hex, hc, if_neg hleft, List.nil_append]

/-- The last hexadecimal digit. -/
theorem scan_hex_last {value d : Nat} {s : OpenString} (hc : hexValue? c = some d)
    (hvalid : (16 * value + d).isValidChar) :
    (Reading.string s (.hex 1 value)).scan (c :: rest) =
      (Reading.string (s.push (Char.ofNat (16 * value + d))) (.content 0)).scan rest := by
  simp only [scan, Reading.step_hex, hc, Nat.le_refl, if_true, if_pos hvalid, List.nil_append]

/-- A control character is read back from its four digits. -/
theorem scan_upperHex (hc : c.toNat < 0x80) (back : Text) :
    (inside '"' isTriple back 0).scan (['\\', 'u'] ++ upperHex c.toNat ++ rest) =
      (inside '"' isTriple (c :: back) 0).scan rest := by
  have digit (n : Nat) : hexValue? (Nat.digitChar (n % 16)).toUpper = some (n % 16) :=
    hexValue?_upperHex _ (Nat.mod_lt _ (by decide))
  have hvalue : 16 * (16 * (16 * (16 * 0 + c.toNat / 4096 % 16) + c.toNat / 256 % 16)
      + c.toNat / 16 % 16) + c.toNat % 16 = c.toNat := by omega
  calc (inside '"' isTriple back 0).scan (['\\', 'u'] ++ upperHex c.toNat ++ rest)
    _ = (Reading.string ⟨'"', isTriple, back⟩ (.hex 4 0)).scan (upperHex c.toNat ++ rest) := rfl
    _ = (Reading.string ⟨'"', isTriple, Char.ofNat c.toNat :: back⟩ (.content 0)).scan rest := by
      simp only [upperHex, List.map_cons, List.map_nil, List.cons_append, List.nil_append]
      rw [scan_hex (digit _) (by decide), scan_hex (digit _) (by decide),
        scan_hex (digit _) (by decide), scan_hex_last (digit _), hvalue]
      · rfl
      · rw [hvalue]
        exact c.valid
    _ = (inside '"' isTriple (c :: back) 0).scan rest := by rw [Char.ofNat_toNat]

/-- How a character other than a double quote is written in double quotes. -/
inductive Escapes (isTriple : Bool) (c : Char) : Text → Prop where
  /-- By a short escape. -/
  | short {m : Char} : shortEscape? m = some c → Escapes isTriple c ['\\', m]
  /-- As the line end that it is, in triple quotes. -/
  | lineEnd : isTriple = true → c = '\n' → Escapes isTriple c [c]
  /-- By its code point. -/
  | control : c.toNat < 0x80 → Escapes isTriple c (['\\', 'u'] ++ upperHex c.toNat)
  /-- As it is. -/
  | plain : c ≠ '\\' → isPlainChar c = true → Escapes isTriple c [c]

theorem escapes_escapedChar (isTriple : Bool) (c : Char) :
    Escapes isTriple c (escapedChar isTriple c) := by
  rw [escapedChar]
  split
  next h => subst h; exact .short rfl
  split
  next h => subst h; exact .short rfl
  split
  next h =>
    subst h
    cases isTriple
    · exact .short rfl
    · exact .lineEnd rfl rfl
  split
  next h => subst h; exact .short rfl
  split
  next h => subst h; exact .short rfl
  split
  next h => subst h; exact .short rfl
  next hback =>
    split
    next hcontrol =>
      simp only [Bool.or_eq_true, decide_eq_true_eq, beq_iff_eq] at hcontrol
      exact .control (by omega)
    next hcontrol =>
      simp only [Bool.or_eq_true, decide_eq_true_eq, beq_iff_eq, not_or] at hcontrol
      exact .plain hback (by simp [isPlainChar, Nat.not_lt.1 hcontrol.1, hcontrol.2])

/-- Plain characters are no line ends. -/
theorem ne_of_isPlainChar (hc : isPlainChar c = true) : c ≠ '\n' ∧ c ≠ '\r' := by
  constructor
  · rintro rfl
    cases hc
  · rintro rfl
    cases hc

/-- **An escaped character is read as the character.** -/
theorem Escapes.scan_eq {u : Text} (h : Escapes isTriple c u) (hc : c ≠ '"') (back : Text) :
    (inside '"' isTriple back 0).scan (u ++ rest) =
      (inside '"' isTriple (c :: back) 0).scan rest := by
  cases h with
  | short h => simp [scan, stepContent, stepEscape, h, OpenString.push]
  | lineEnd htriple hline =>
      subst htriple hline
      rfl
  | control h => exact scan_upperHex h back
  | plain hback hplain =>
      obtain ⟨hline, hreturn⟩ := ne_of_isPlainChar hplain
      simp [scan, stepContent, hc, hline, hreturn, hback, hplain, OpenString.push]

/-- It begins with a backslash or is the character. -/
theorem Escapes.eq_cons {u : Text} (h : Escapes isTriple c u) :
    ∃ d v, u = d :: v ∧ (d = '\\' ∨ d = c ∧ c ≠ '\r') := by
  cases h with
  | short _ => exact ⟨_, _, rfl, .inl rfl⟩
  | lineEnd _ hline => exact ⟨_, _, rfl, .inr ⟨rfl, by rw [hline]; decide⟩⟩
  | control _ => exact ⟨_, _, rfl, .inl rfl⟩
  | plain _ hplain => exact ⟨_, _, rfl, .inr ⟨rfl, (ne_of_isPlainChar hplain).2⟩⟩

/-- **Content with escapes is read as its text**, up to the quotes that close it. -/
theorem scan_escaped {t : Text} (hn : n ≤ innerQuotes isTriple) (hc : c ≠ '"') (back : Text) :
    (inside '"' isTriple back n).scan
        (escaped isTriple (innerQuotes isTriple) n t ++ (fence '"' isTriple ++ c :: rest)) =
      .string isTriple (back.reverse ++ List.replicate n '"' ++ t) :: gap.scan (c :: rest) := by
  induction t generalizing n back with
  | nil => rw [escaped, List.nil_append, scan_fence hn hc, List.append_nil]
  | cons d t ih =>
      rw [escaped]
      split
      next hd =>
        subst hd
        split
        next hmore =>
          rw [List.cons_append, scan_quote hmore, ih hmore, List.replicate_succ']
          simp
        next =>
          have quote : ∀ u more, (inside '"' isTriple u 0).scan ('\\' :: (['"'] ++ more)) =
              (inside '"' isTriple ('"' :: u) 0).scan more := fun _ _ => rfl
          -- the backslash is what ends the quotes held back
          rw [List.append_assoc, List.cons_append, scan_notQuote hn (by decide), quote,
            ih (Nat.zero_le _)]
          simp
      next hd =>
        have escapes := escapes_escapedChar isTriple d
        obtain ⟨e, u, he, hmark⟩ := escapes.eq_cons
        have hquote : e ≠ '"' := by
          rintro rfl
          rcases hmark with h | ⟨rfl, -⟩
          · cases h
          · exact hd rfl
        rw [List.append_assoc, he, List.cons_append, scan_notQuote hn hquote, ← List.cons_append,
          ← he, escapes.scan_eq hd, ih (Nat.zero_le _)]
        simp

/-! ### Content as it is -/

theorem le_longestRun (q : Char) (n : Nat) (t : Text) : n ≤ longestRun q n t := by
  induction t generalizing n with
  | nil => exact Nat.le_refl n
  | cons c t ih =>
      rw [longestRun]
      split
      · exact Nat.le_of_succ_le (ih (n + 1))
      · exact Nat.le_max_left _ _

/-- Whether a character may stand in single quotes, one or three of them. -/
def IsRaw (isTriple : Bool) (c : Char) : Prop := isPlainChar c = true ∨ isTriple = true ∧ c = '\n'

/-- **Content without escapes is read as it is**, up to the quotes that close it. -/
theorem scan_raw {t : Text} (ht : ∀ d ∈ t, IsRaw isTriple d)
    (hrun : longestRun '\'' n t ≤ innerQuotes isTriple) (hc : c ≠ '\'') (back : Text) :
    (inside '\'' isTriple back n).scan (t ++ (fence '\'' isTriple ++ c :: rest)) =
      .string isTriple (back.reverse ++ List.replicate n '\'' ++ t) :: gap.scan (c :: rest) := by
  induction t generalizing n back with
  | nil =>
      have hn : n ≤ innerQuotes isTriple := hrun
      rw [List.nil_append, scan_fence hn hc, List.append_nil]
  | cons d t ih =>
      rw [List.forall_mem_cons] at ht
      rw [longestRun] at hrun
      split at hrun
      next hd =>
        subst hd
        have hmore : n < innerQuotes isTriple := Nat.lt_of_lt_of_le (le_longestRun _ _ t) hrun
        rw [List.cons_append, scan_quote hmore, ih ht.2 hrun, List.replicate_succ']
        simp
      next hd =>
        rw [Nat.max_le] at hrun
        have hstep : (inside '\'' isTriple (List.replicate n '\'' ++ back) 0).step d =
            ([], inside '\'' isTriple (d :: (List.replicate n '\'' ++ back)) 0) := by
          rcases ht.1 with hplain | ⟨rfl, rfl⟩
          · have hreturn := (ne_of_isPlainChar hplain).2
            cases isTriple <;> simp [stepContent, hd, hplain, hreturn, OpenString.push]
          · simp [stepContent, OpenString.push]
        rw [List.cons_append, scan_notQuote hrun.1 hd, scan, hstep, List.nil_append, ih ht.2 hrun.2]
        simp

/-! ### Strings -/

section Opening

variable {t content : Text}

/-- After one quote there is content that begins with another character, or the string is
empty. -/
theorem scan_open (hq : q = '"' ∨ q = '\'') (hhead : ∀ d, content.head? = some d → d ≠ q)
    (hc : c ≠ q) :
    gap.scan (fence q false ++ (content ++ (fence q false ++ c :: rest))) =
      (inside q false [] 0).scan (content ++ (fence q false ++ c :: rest)) := by
  have hquote : ∀ more, gap.scan (fence q false ++ more) = (Reading.quotes q false).scan more := by
    rcases hq with rfl | rfl <;> exact fun _ => rfl
  rw [hquote]
  cases content with
  | nil =>
      rw [List.nil_append, scan_fence (Nat.le_refl 0) hc]
      simp [fence, scan, after, hc]
  | cons d content =>
      have hd : d ≠ q := hhead d rfl
      simp [scan, hd]

/-- After three quotes the line end that opens a text with line ends is dropped. -/
theorem scan_openTriple (hq : q = '"' ∨ q = '\'')
    (hhead : '\n' ∉ t → ∀ d, content.head? = some d → d ≠ '\n' ∧ d ≠ '\r') :
    gap.scan (fence q true ++ (opening t ++ (content ++ (fence q true ++ rest)))) =
      (inside q true [] 0).scan (content ++ (fence q true ++ rest)) := by
  have hfence : ∀ more, gap.scan (fence q true ++ more) =
      (Reading.string ⟨q, true, []⟩ .fresh).scan more := by
    rcases hq with rfl | rfl <;> exact fun _ => rfl
  have hfresh : ∀ d more, d ≠ '\n' → d ≠ '\r' →
      (Reading.string ⟨q, true, []⟩ .fresh).scan (d :: more) =
        (inside q true [] 0).scan (d :: more) := by
    intro d more hline hreturn
    simp [scan, hline, hreturn]
  rw [hfence, opening]
  split
  · rfl
  next hline =>
    have hline : '\n' ∉ t := by simpa using hline
    rw [List.nil_append]
    cases content with
    | nil =>
        rcases hq with rfl | rfl
        · exact hfresh _ _ (by decide) (by decide)
        · exact hfresh _ _ (by decide) (by decide)
    | cons d content =>
        obtain ⟨h₁, h₂⟩ := hhead hline d rfl
        exact hfresh d _ h₁ h₂

end Opening

/-- What content with escapes begins with. -/
theorem head?_escaped {t : Text} {allowed : Nat} {d : Char}
    (h : (escaped isTriple allowed n t).head? = some d) :
    d = '\\' ∨ d = '"' ∧ n < allowed ∨ d ∈ t ∧ d ≠ '"' ∧ d ≠ '\r' := by
  cases t with
  | nil => cases h
  | cons e t =>
      rw [escaped] at h
      split at h
      next he =>
        split at h
        next hmore =>
          cases h
          exact .inr (.inl ⟨he, hmore⟩)
        next =>
          cases h
          exact .inl rfl
      next he =>
        obtain ⟨f, u, hf, hmark⟩ := (escapes_escapedChar isTriple e).eq_cons
        rw [hf] at h
        cases h
        rcases hmark with h | ⟨rfl, hreturn⟩
        · exact .inl h
        · exact .inr (.inr ⟨List.mem_cons_self .., he, hreturn⟩)

section Forms

variable {t : Text}

theorem scan_basic (hc : c ≠ '"') (t : Text) :
    gap.scan (fence '"' false ++ (escaped false 0 0 t ++ (fence '"' false ++ c :: rest))) =
      .string false t :: gap.scan (c :: rest) := by
  have hhead : ∀ d, (escaped false 0 0 t).head? = some d → d ≠ '"' := by
    intro d hd
    rcases head?_escaped hd with rfl | ⟨-, h⟩ | ⟨-, h, -⟩
    · decide
    · cases h
    · exact h
  rw [scan_open (.inl rfl) hhead hc]
  exact scan_escaped (Nat.zero_le (innerQuotes false)) hc []

theorem scan_tripleBasic (hc : c ≠ '"') (t : Text) :
    gap.scan (fence '"' true ++
        (opening t ++ (escaped true 2 0 t ++ (fence '"' true ++ c :: rest)))) =
      .string true t :: gap.scan (c :: rest) := by
  have hhead : '\n' ∉ t → ∀ d, (escaped true 2 0 t).head? = some d → d ≠ '\n' ∧ d ≠ '\r' := by
    intro hline d hd
    rcases head?_escaped hd with rfl | ⟨rfl, -⟩ | ⟨hmem, -, hreturn⟩
    · decide
    · decide
    · refine ⟨?_, hreturn⟩
      rintro rfl
      exact hline hmem
  rw [scan_openTriple (.inl rfl) hhead]
  exact scan_escaped (Nat.zero_le (innerQuotes true)) hc []

/-- A character that needs no escape may stand as it is, a line end in triple quotes. -/
theorem isRaw_of_needsEscape (hc : needsEscape c = false) (hline : c = '\n' → isTriple = true) :
    IsRaw isTriple c := by
  by_cases hnewline : c = '\n'
  · exact .inr ⟨hline hnewline, hnewline⟩
  · simp only [needsEscape, Bool.or_eq_false_iff, Bool.and_eq_false_iff, decide_eq_false_iff_not,
      bne_eq_false_iff_eq, beq_eq_false_iff_ne] at hc
    obtain ⟨(hlow | rfl) | rfl, hdelete⟩ := hc
    · left
      simp [isPlainChar, Nat.not_lt.1 hlow, hdelete]
    · exact .inl rfl
    · exact absurd rfl hnewline

/-- Every quote counts in the longest run. -/
theorem notMem_of_longestRun (h : longestRun q 0 t = 0) : q ∉ t := by
  induction t with
  | nil => exact List.not_mem_nil
  | cons c t ih =>
      rw [longestRun] at h
      split at h
      next =>
        have := le_longestRun q 1 t
        rw [h] at this
        cases this
      next hc =>
        rw [List.mem_cons, not_or]
        exact ⟨Ne.symm hc, ih (Nat.max_eq_zero_iff.1 h).2⟩

theorem scan_literal (hescape : t.any needsEscape = false) (hline : '\n' ∉ t)
    (hquote : longestRun '\'' 0 t = 0) (hc : c ≠ '\'') :
    gap.scan (fence '\'' false ++ (t ++ (fence '\'' false ++ c :: rest))) =
      .string false t :: gap.scan (c :: rest) := by
  have hraw : ∀ d ∈ t, IsRaw false d := by
    intro d hd
    refine isRaw_of_needsEscape (by simpa using List.any_eq_false.1 hescape d hd) ?_
    rintro rfl
    exact absurd hd hline
  have hhead : ∀ d, t.head? = some d → d ≠ '\'' := by
    rintro d hd rfl
    exact notMem_of_longestRun hquote (List.mem_of_mem_head? hd)
  rw [scan_open (.inr rfl) hhead hc]
  exact scan_raw hraw (Nat.le_of_eq hquote) hc []

theorem scan_tripleLiteral (hescape : t.any needsEscape = false)
    (hquote : longestRun '\'' 0 t ≤ 2) (hc : c ≠ '\'') :
    gap.scan (fence '\'' true ++ (opening t ++ (t ++ (fence '\'' true ++ c :: rest)))) =
      .string true t :: gap.scan (c :: rest) := by
  have hfree : ∀ d ∈ t, needsEscape d = false := fun d hd => by
    simpa using List.any_eq_false.1 hescape d hd
  have hraw : ∀ d ∈ t, IsRaw true d := fun d hd => isRaw_of_needsEscape (hfree d hd) fun _ => rfl
  have hhead : '\n' ∉ t → ∀ d, t.head? = some d → d ≠ '\n' ∧ d ≠ '\r' := by
    intro hline d hd
    have hmem : d ∈ t := List.mem_of_mem_head? hd
    constructor
    · rintro rfl
      exact hline hmem
    · rintro rfl
      cases hfree _ hmem
  rw [scan_openTriple (.inr rfl) hhead]
  exact scan_raw hraw hquote hc []

/-- The conditions under which a form is used, as far as the text has to meet any. -/
def StringForm.Suits (t : Text) : StringForm → Prop
  | .basic | .tripleBasic => True
  | .literal              => t.any needsEscape = false ∧ longestRun '\'' 0 t = 0 ∧ '\n' ∉ t
  | .tripleLiteral        => t.any needsEscape = false ∧ longestRun '\'' 0 t ≤ 2

theorem suits_formOf (t : Text) : (formOf t).Suits t := by
  simp only [formOf]
  split
  · trivial
  split
  next h => simpa [StringForm.Suits, and_assoc] using h
  split
  · trivial
  split
  next h => simpa [StringForm.Suits] using h
  split
  · trivial
  · trivial

end Forms

/-- The token of a string. -/
def stringToken (t : Text) : Token :=
  match formOf t with
  | .basic | .literal             => .string false t
  | .tripleBasic | .tripleLiteral => .string true t

theorem stringToken_eq (t : Text) : ∃ isTriple, stringToken t = .string isTriple t := by
  rw [stringToken]
  split
  · exact ⟨_, rfl⟩
  · exact ⟨_, rfl⟩
  · exact ⟨_, rfl⟩
  · exact ⟨_, rfl⟩

/-- **A written string is one token**, up to a character that is no quote. -/
theorem scan_writeString (t : Text) (hdouble : c ≠ '"') (hsingle : c ≠ '\'') :
    gap.scan (writeString t ++ c :: rest) = stringToken t :: gap.scan (c :: rest) := by
  rw [writeString, stringToken]
  cases hform : formOf t with
  | basic =>
      rw [List.append_assoc, List.append_assoc]
      exact scan_basic hdouble t
  | literal =>
      obtain ⟨hescape, hquote, hline⟩ : StringForm.Suits t .literal := hform ▸ suits_formOf t
      rw [List.append_assoc, List.append_assoc]
      exact scan_literal hescape hline hquote hsingle
  | tripleBasic =>
      rw [List.append_assoc, List.append_assoc, List.append_assoc]
      exact scan_tripleBasic hdouble t
  | tripleLiteral =>
      obtain ⟨hescape, hquote⟩ : StringForm.Suits t .tripleLiteral := hform ▸ suits_formOf t
      rw [List.append_assoc, List.append_assoc, List.append_assoc]
      exact scan_tripleLiteral hescape hquote hsingle

/-! ### Arrays of strings and lines -/

/-- The tokens of an element on a line of its own. -/
def elementTokens (t : Text) : List Token :=
  [.blank "    ".toList, stringToken t, .comma, .newline]

/-- The tokens of an array of strings. -/
def stringsTokens : List Text → List Token
  | []  => [.openBracket, .closeBracket]
  | [t] => [.openBracket, stringToken t, .closeBracket]
  | ts  => [.openBracket, .newline] ++ ts.flatMap elementTokens ++ [.closeBracket]

/-- A written string begins with a quote. -/
theorem writeString_eq_cons (t : Text) : ∃ d u, writeString t = d :: u ∧ (d = '"' ∨ d = '\'') := by
  rw [writeString]
  split
  · exact ⟨_, _, rfl, .inl rfl⟩
  · exact ⟨_, _, rfl, .inr rfl⟩
  · exact ⟨_, _, rfl, .inl rfl⟩
  · exact ⟨_, _, rfl, .inr rfl⟩

/-- A written array begins with a bracket. -/
theorem writeStrings_eq_cons (ts : List Text) : ∃ u, writeStrings ts = '[' :: u := by
  rw [writeStrings.eq_def]
  split <;> exact ⟨_, rfl⟩

theorem scan_element (t : Text) :
    gap.scan ("    ".toList ++ writeString t ++ [',', '\n'] ++ rest) =
      elementTokens t ++ gap.scan rest := by
  obtain ⟨d, u, hd, hquote⟩ := writeString_eq_cons t
  have hblank : ¬(d = ' ' ∨ d = '\t') := by
    rcases hquote with rfl | rfl <;> decide
  have open' : gap.scan ("    ".toList ++ writeString t ++ [',', '\n'] ++ rest) =
      (Reading.blank "    ".toList).scan (writeString t ++ ',' :: '\n' :: rest) := by
    rw [List.append_assoc, List.append_assoc]
    rfl
  rw [open', hd, List.cons_append, scan_blank_end hblank, ← List.cons_append, ← hd,
    scan_writeString t (by decide) (by decide)]
  rfl

theorem scan_elements (ts : List Text) :
    gap.scan (ts.flatMap (fun t => "    ".toList ++ writeString t ++ [',', '\n']) ++ rest) =
      ts.flatMap elementTokens ++ gap.scan rest := by
  induction ts with
  | nil => rfl
  | cons t ts ih =>
      rw [List.flatMap_cons, List.flatMap_cons, List.append_assoc, scan_element, ih,
        List.append_assoc]

/-- **A written array of strings is cut into its tokens.** -/
theorem scan_writeStrings (ts : List Text) :
    gap.scan (writeStrings ts ++ rest) = stringsTokens ts ++ gap.scan rest := by
  match ts with
  | [] => rfl
  | [t] =>
      have open' : gap.scan (writeStrings [t] ++ rest) =
          .openBracket :: gap.scan (writeString t ++ ']' :: rest) := by
        rw [writeStrings, List.append_assoc, List.append_assoc]
        rfl
      rw [open', scan_writeString t (by decide) (by decide)]
      rfl
  | t :: u :: ts =>
      have open' : gap.scan (writeStrings (t :: u :: ts) ++ rest) = .openBracket :: .newline ::
          gap.scan ((t :: u :: ts).flatMap
            (fun t => "    ".toList ++ writeString t ++ [',', '\n']) ++ ']' :: rest) := by
        rw [writeStrings, List.append_assoc, List.append_assoc]
        · rfl
        all_goals simp
      rw [open', scan_elements, stringsTokens, List.append_assoc, List.append_assoc]
      · rfl
      all_goals simp

/-- A line that sets a key, whose value begins with no blank. -/
theorem scan_writePair {key : String} {value : Text} {ts : List Token}
    (hne : key.toList ≠ []) (hkey : ∀ d ∈ key.toList, d ∉ marks)
    (hvalue : gap.scan (value ++ '\n' :: rest) = ts ++ gap.scan ('\n' :: rest))
    (hblank : ∃ d u, value = d :: u ∧ ¬(d = ' ' ∨ d = '\t')) :
    gap.scan (writePair key value ++ rest) =
      [.run key.toList, .blank [' '], .equals, .blank [' ']] ++ ts ++ [.newline]
        ++ gap.scan rest := by
  obtain ⟨d, u, rfl, hd⟩ := hblank
  have equals : gap.scan (' ' :: '=' :: ' ' :: (d :: u ++ '\n' :: rest)) =
      .blank [' '] :: .equals :: .blank [' '] :: gap.scan (d :: u ++ '\n' :: rest) :=
    congrArg (Token.blank [' '] :: Token.equals :: ·) (scan_blank_end hd [' '] (u ++ '\n' :: rest))
  calc gap.scan (writePair key (d :: u) ++ rest)
    _ = gap.scan (key.toList ++ ' ' :: '=' :: ' ' :: (d :: u ++ '\n' :: rest)) := by
      simp [writePair]
    _ = .run key.toList :: gap.scan (' ' :: '=' :: ' ' :: (d :: u ++ '\n' :: rest)) :=
      scan_word hne hkey rfl
    _ = [.run key.toList, .blank [' '], .equals, .blank [' ']] ++ ts ++ [.newline]
          ++ gap.scan rest := by
      rw [equals, hvalue, List.append_assoc, List.append_assoc]
      rfl

end TranscriptSearch.Toml
