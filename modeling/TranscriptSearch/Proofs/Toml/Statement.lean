import Mathlib.Data.List.TakeWhile
import TranscriptSearch.Proofs.Toml.Token
import TranscriptSearch.Toml.Statement

/-!
# Toml — what is written, read again

* `scalar?_decimal`: the digits of a number are the number.
* `Writes`: a text is read as a value where the value of a key has to stand.
* `writes_writeString`, `writes_writeStrings`, `writes_decimal`: the texts of strings, of arrays
  of strings and of numbers are read as these.
* `statements?_header`, `statements?_writePair`: the statements of a document, a line at a time.
-/

namespace TranscriptSearch.Toml

open Number
open Reading (gap)

/-! ### Digits -/

theorem ungrouped?_of_all {t : Text} (hne : t ≠ []) (ht : t.all isDigit = true) :
    ungrouped? isDigit t = some t := by
  induction t with
  | nil => exact absurd rfl hne
  | cons c t ih =>
      rw [List.all_cons, Bool.and_eq_true] at ht
      cases t with
      | nil => rw [ungrouped?, if_pos ht.1]
      | cons d t =>
          have hgroup : ∀ more, d :: t ≠ '_' :: more := by
            rintro more h
            cases h
            exact absurd (Bool.and_eq_true_iff.1 ht.2).1 (by decide)
          rw [ungrouped?, if_pos ht.1, ih (List.cons_ne_nil d t) ht.2, Option.map_some]
          · exact fun h => nomatch h
          · exact hgroup

theorem wholeDigits?_decimal (n : Nat) : wholeDigits? (decimal n) = some (decimal n) := by
  obtain ⟨c, rest, hc, -, hzero⟩ := decimal_eq_cons n
  have hfirst : (decimal n).length = 1 ∨ (decimal n).head? ≠ some '0' := by
    by_cases h : c = '0'
    · left
      rw [hzero h, decimal_zero, List.length_singleton]
    · right
      rw [hc, List.head?_cons]
      exact fun e => h (Option.some.inj e)
  have hguard : (guard ((decimal n).length = 1 || (decimal n).head? != some '0') : Option Unit) =
      some () := if_pos (by simpa using hfirst)
  rw [wholeDigits?, ungrouped?_of_all (decimal_ne_nil n) (all_isDigit_decimal n),
    Option.bind_eq_bind, Option.bind_some, hguard]
  rfl

theorem inTen?_decimal (n : Nat) : inTen? (decimal n) = some (some n) := by
  have hdrop : (decimal n).dropWhile isDigit = [] :=
    List.dropWhile_eq_nil_iff.2 fun _ h => isDigit_of_mem_decimal h
  rw [inTen?, hdrop]
  simp only
  rw [wholeDigits?_decimal, Option.map_some, digitsValue_decimal]

theorem integer?_decimal (n : Nat) : integer? (decimal n) = some (some (Int.ofNat n)) := by
  have hnot : ∀ d, isDigit d = false → d ∉ decimal n := by
    intro d hd hmem
    rw [isDigit_of_mem_decimal hmem] at hd
    cases hd
  have hten : unsigned (decimal n) = (false, decimal n) := by
    rw [unsigned.eq_def]
    split
    next h => exact absurd (h ▸ List.mem_cons_self ..) (hnot '-' rfl)
    next h => exact absurd (h ▸ List.mem_cons_self ..) (hnot '+' rfl)
    next => rfl
  -- the second letter of the mark of a base is no digit
  have hbase : ∀ d, isDigit d = false → ∀ t, decimal n ≠ '0' :: d :: t := fun d hd t h =>
    hnot d hd (h ▸ List.mem_cons_of_mem _ (List.mem_cons_self ..))
  rw [integer?]
  · rw [hten]
    simp only
    rw [inTen?_decimal]
    rfl
  · exact hbase 'x' rfl
  · exact hbase 'o' rfl
  · exact hbase 'b' rfl

/-- **The digits of a number are the number.** -/
theorem scalar?_decimal (n : Nat) : scalar? (decimal n) = some (.integer (some (Int.ofNat n))) := by
  have hword : ∀ w : Text, w.all isDigit = false → decimal n ≠ w := by
    rintro w hw rfl
    rw [all_isDigit_decimal] at hw
    cases hw
  rw [scalar?, if_neg (hword _ (by decide)), if_neg (hword _ (by decide)), integer?_decimal]

/-! ### One token more -/

namespace Place

variable {p p' : Place} {t : Token} {s : Statement} {more : List Token}

theorem scan_of_go (h : p.step t = go p') : p.scan (t :: more) = p'.scan more := by
  simp [scan, h, go]

theorem scan_of_end (h : p.step t = (some s, p')) :
    p.scan (t :: more) = (p'.scan more).map (s :: ·) := by
  simp [scan, h]

end Place

/-! ### Values -/

open Place (go isBareKey)

/-- Where the value of a key has to stand, tokens are put together to a value, up to the end of
the line. -/
def Gives (ts : List Token) (v : Toml) : Prop :=
  ∀ path more, (Place.value [.pair path]).scan (ts ++ .newline :: more) =
    (Place.lineStart.scan more).map (.pair path v :: ·)

theorem gives_string (isTriple : Bool) (t : Text) : Gives [.string isTriple t] (.string t) := by
  intro path more
  rw [List.singleton_append, Place.scan_of_end rfl, Place.scan_of_go rfl]

theorem gives_scalar {t : Text} {v : Toml} (h : scalar? t = some v) : Gives [.run t] v := by
  intro path more
  have hline : (Place.scalar [.pair path] t).step .newline = (some (.pair path v), .lineStart) := by
    change Place.continueWith (Place.putScalar t [.pair path]) .newline = _
    rw [Place.putScalar, h]
    rfl
  rw [List.singleton_append, Place.scan_of_go rfl, Place.scan_of_end hline]

/-- The lines of an array, each with a string and a comma, become its elements. -/
theorem scan_elementTokens (ts : List Text) (back : List Toml) (outer : List Frame)
    (more : List Token) :
    (Place.value (.array back :: outer)).scan (ts.flatMap elementTokens ++ more) =
      (Place.value (.array ((ts.map .string).reverse ++ back) :: outer)).scan more := by
  induction ts generalizing back with
  | nil => rfl
  | cons t ts ih =>
      obtain ⟨isTriple, ht⟩ := stringToken_eq t
      have element : ∀ more, (Place.value (.array back :: outer)).scan (elementTokens t ++ more) =
          (Place.value (.array (.string t :: back) :: outer)).scan more := by
        intro more
        simp only [elementTokens, ht, List.cons_append, List.nil_append]
        rw [Place.scan_of_go rfl, Place.scan_of_go rfl, Place.scan_of_go rfl, Place.scan_of_go rfl]
      rw [List.flatMap_cons, List.append_assoc, element, ih, List.map_cons, List.reverse_cons,
        List.append_assoc, List.singleton_append]

theorem gives_strings (ts : List Text) :
    Gives (stringsTokens ts) (.array false (ts.map .string)) := by
  intro path more
  match ts with
  | [] =>
      simp only [stringsTokens, List.cons_append, List.nil_append]
      rw [Place.scan_of_go rfl, Place.scan_of_end rfl, Place.scan_of_go rfl]
      rfl
  | [t] =>
      obtain ⟨isTriple, ht⟩ := stringToken_eq t
      simp only [stringsTokens, ht, List.cons_append, List.nil_append]
      rw [Place.scan_of_go rfl, Place.scan_of_go rfl, Place.scan_of_end rfl, Place.scan_of_go rfl]
      rfl
  | t :: u :: ts =>
      have close : (Place.value [.array ((t :: u :: ts).map Toml.string).reverse, .pair path]).step
          .closeBracket =
            (some (.pair path (.array false ((t :: u :: ts).map .string))), .lineEnd) := by
        simp only [Place.step, Place.stepValue, Place.closeArray, Place.put, List.reverse_reverse]
      rw [stringsTokens, List.append_assoc, List.append_assoc]
      · simp only [List.cons_append, List.nil_append]
        rw [Place.scan_of_go rfl, Place.scan_of_go rfl, scan_elementTokens, List.append_nil,
          Place.scan_of_end close, Place.scan_of_go rfl]
      all_goals simp

/-! ### Lines -/

/-- A text is read as a value where the value of a key has to stand. -/
structure Writes (value : Text) (v : Toml) : Prop where
  /-- It begins with no blank. -/
  begins : ∃ d u, value = d :: u ∧ ¬(d = ' ' ∨ d = '\t')
  /-- At the end of a line it is cut into tokens that are put together to the value. -/
  reads : ∃ ts, Gives ts v ∧
    ∀ rest, gap.scan (value ++ '\n' :: rest) = ts ++ gap.scan ('\n' :: rest)

theorem writes_writeString (t : Text) : Writes (writeString t) (.string t) where
  begins := by
    obtain ⟨d, u, hd, hquote⟩ := writeString_eq_cons t
    refine ⟨d, u, hd, ?_⟩
    rcases hquote with rfl | rfl <;> decide
  reads := by
    obtain ⟨isTriple, ht⟩ := stringToken_eq t
    refine ⟨[stringToken t], ht ▸ gives_string isTriple t, fun rest => ?_⟩
    rw [scan_writeString t (by decide) (by decide), List.singleton_append]

theorem writes_writeStrings (ts : List Text) :
    Writes (writeStrings ts) (.array false (ts.map .string)) where
  begins := by
    obtain ⟨u, hu⟩ := writeStrings_eq_cons ts
    exact ⟨_, u, hu, by decide⟩
  reads := ⟨stringsTokens ts, gives_strings ts, fun _ => scan_writeStrings ts⟩

theorem writes_decimal (n : Nat) : Writes (decimal n) (.integer (some (Int.ofNat n))) where
  begins := by
    obtain ⟨c, rest, hc, hdigit, -⟩ := decimal_eq_cons n
    refine ⟨c, rest, hc, ?_⟩
    rintro (rfl | rfl) <;> cases hdigit
  reads := by
    refine ⟨[.run (decimal n)], gives_scalar (scalar?_decimal n), fun rest => ?_⟩
    exact scan_word (decimal_ne_nil n)
      (fun _ h => notMem_marks_of_isDigit (isDigit_of_mem_decimal h)) rfl

section Lines

variable {key rest : Text}

/-- The characters of a key without quotes are no marks. -/
theorem notMem_marks_of_isBareKey (hkey : isBareKey key = true) : ∀ c ∈ key, c ∉ marks := by
  intro c hc hmem
  have none : marks.all (fun c => !isBareKey [c]) = true := by decide
  have hmark := List.all_eq_true.1 none c hmem
  have hbare : isBareKey [c] = true := by
    have := List.all_eq_true.1 hkey c hc
    simpa [isBareKey] using this
  rw [hbare] at hmark
  cases hmark

/-- **A header** in single brackets. -/
theorem statements?_header (hne : key ≠ []) (hkey : isBareKey key = true) :
    statements? ('[' :: (key ++ ']' :: '\n' :: rest)) =
      (statements? rest).map (.header false ⟨[], key⟩ :: ·) := by
  have hrun : Place.headerStart.step (.run key) = go (.headerDot false [key]) := by
    simp [Place.step, Place.stepHeaderKey, Place.key?, hkey]
  have htokens : tokens ('[' :: (key ++ ']' :: '\n' :: rest)) =
      .openBracket :: .run key :: .closeBracket :: .newline :: tokens rest := by
    calc tokens ('[' :: (key ++ ']' :: '\n' :: rest))
      _ = .openBracket :: gap.scan (key ++ ']' :: '\n' :: rest) := rfl
      _ = .openBracket :: .run key :: .closeBracket :: .newline :: tokens rest := by
        rw [scan_word hne (notMem_marks_of_isBareKey hkey) rfl]
        rfl
  rw [statements?, htokens, Place.scan_of_go rfl, Place.scan_of_go hrun, Place.scan_of_end rfl,
    Place.scan_of_go rfl]
  rfl

/-- An empty line. -/
theorem statements?_newline : statements? ('\n' :: rest) = statements? rest :=
  Place.scan_of_go rfl

/-- **A line that sets a key** to a value. -/
theorem statements?_writePair {key : String} {value : Text} {v : Toml} (hne : key.toList ≠ [])
    (hkey : isBareKey key.toList = true) (hvalue : Writes value v) :
    statements? (writePair key value ++ rest) =
      (statements? rest).map (.pair ⟨[], key.toList⟩ v :: ·) := by
  obtain ⟨ts, hgives, hscan⟩ := hvalue.reads
  have hrun : Place.lineStart.step (.run key.toList) = go (.keyDot [] [] [key.toList]) := by
    simp [Place.step, Place.stepKey, Place.key?, hkey]
  have htokens : tokens (writePair key value ++ rest) =
      .run key.toList :: .blank [' '] :: .equals :: .blank [' '] ::
        (ts ++ .newline :: tokens rest) := by
    rw [tokens, scan_writePair hne (notMem_marks_of_isBareKey hkey) (hscan rest) hvalue.begins]
    simp only [List.cons_append, List.nil_append, List.append_assoc]
    rfl
  rw [statements?, htokens, Place.scan_of_go hrun, Place.scan_of_go rfl, Place.scan_of_go rfl,
    Place.scan_of_go rfl, hgives]
  rfl

end Lines

end TranscriptSearch.Toml
