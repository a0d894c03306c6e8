import Mathlib.Data.List.TakeDrop
import TranscriptSearch.SessionKey
import TranscriptSearch.Proofs.Number.Decimal
import TranscriptSearch.Proofs.Text.Words

/-!
# Session keys — written and read

A text is read as a key just when it spells one.  A key has many spellings, with plus signs, leading
zeros and blanks around; its own text is the one that has none of these.

* `SessionKey.parse?_text`: the text of a key is read as the key.
* `SessionKey.Spells`: the spellings of a key.
* `SessionKey.parse?_eq_some_iff`: what is read as a key.
* `SessionKey.eq_text_of_writes`: the spelling without plus signs and needless zeros.
* `SessionKey.read_as_spelled`: the text form as a codec.
-/

namespace TranscriptSearch

namespace Text

/-- No digit is a blank. -/
theorem isBlank_of_isDigit {c : Char} (h : Number.isDigit c = true) : isBlank c = false := by
  have table : ∀ n < 58, 48 ≤ n → blankRanges.contains n = false := by decide
  rw [Number.isDigit, Bool.and_eq_true, decide_eq_true_eq, decide_eq_true_eq] at h
  exact table c.toNat (Nat.lt_succ_of_le h.2) h.1

end Text

namespace SessionKey

open Number

theorem part?_decimal (n : UInt32) : part? (decimal n.toNat) = some n := by
  rw [part?, natural?_decimal n.toNat_lt_size, Option.map_some, UInt32.ofNat_toNat]

/-- **The text of a key is read as the key.** -/
theorem parse?_text (k : SessionKey) : parse? k.text = some k := by
  have chars : ∀ c ∈ k.text, Text.isBlank c = false := fun c hc => by
    rw [text, List.mem_append, List.mem_append, List.mem_singleton] at hc
    obtain (hc | rfl) | hc := hc
    · exact Text.isBlank_of_isDigit (isDigit_of_mem_decimal hc)
    · decide
    · exact Text.isBlank_of_isDigit (isDigit_of_mem_decimal hc)
  have year : ∀ c ∈ decimal k.year.toNat, (c != '-') = true := fun c hc => by
    have := isDigit_of_mem_decimal hc
    rw [bne_iff_ne]
    rintro rfl
    exact absurd this (by decide)
  have cut : k.text.span (· != '-') = (decimal k.year.toNat, '-' :: decimal k.sessionId.toNat) := by
    rw [text, List.append_assoc, List.span_eq_takeWhile_dropWhile,
      List.takeWhile_append_of_pos year, List.dropWhile_append_of_pos year]
    simp
  rw [parse?, Text.trim_eq_self chars, cut]
  simp [part?_decimal]

/-! ### Spellings -/

variable {t year number : Text} {k : SessionKey}

/-- A text writes a key: a numeral for its year and one for its number, with a hyphen between. -/
structure Writes (t : Text) (k : SessionKey) : Prop where
  /-- The two numerals. -/
  numerals : ∃ year number, t = year ++ '-' :: number ∧
    IsNumeral year k.year.toNat ∧ IsNumeral number k.sessionId.toNat

/-- A text spells a key: it writes the key between blanks. -/
def Spells (t : Text) (k : SessionKey) : Prop :=
  ∃ lead core trail, t = lead ++ core ++ trail ∧ Writes core k ∧
    (∀ c ∈ lead, Text.isBlank c = true) ∧ ∀ c ∈ trail, Text.isBlank c = true

theorem part?_eq_some_iff {n : UInt32} : part? t = some n ↔ IsNumeral t n.toNat := by
  rw [part?, Option.map_eq_some_iff]
  constructor
  · rintro ⟨m, hm, rfl⟩
    obtain ⟨hnumeral, hlt⟩ := natural?_eq_some_iff.1 hm
    rwa [UInt32.toNat_ofNat_of_lt' hlt]
  · intro h
    exact ⟨n.toNat, natural?_eq_some_iff.2 ⟨h, n.toNat_lt_size⟩, UInt32.ofNat_toNat⟩

/-- A numeral has no other characters than digits and a plus sign. -/
theorem not_mem_of_isNumeral {n : Nat} {c : Char} (h : IsNumeral t n) (hdigit : c.isDigit = false)
    (hplus : c ≠ '+') : c ∉ t := by
  cases h with
  | bare h => exact h.not_mem hdigit
  | plus h => exact fun hmem => (List.mem_cons.1 hmem).elim hplus (h.not_mem hdigit)

/-- The first hyphen is the one between the numerals. -/
theorem span_hyphen {n : Nat} (hyear : IsNumeral year n) :
    (year ++ '-' :: number).span (· != '-') = (year, '-' :: number) := by
  have before : ∀ c ∈ year, (c != '-') = true := by
    intro c hc
    rw [bne_iff_ne]
    rintro rfl
    exact not_mem_of_isNumeral hyear rfl (by decide) hc
  rw [List.span_eq_takeWhile_dropWhile, List.takeWhile_append_of_pos before,
    List.dropWhile_append_of_pos before]
  simp

theorem Writes.isBlank_eq_false (h : Writes t k) : ∀ c ∈ t, Text.isBlank c = false := by
  obtain ⟨year, number, rfl, hyear, hnumber⟩ := h.numerals
  have numeral : ∀ {u : Text} {n : Nat}, IsNumeral u n → ∀ c ∈ u, Text.isBlank c = false := by
    intro u n hu c hc
    by_contra hblank
    rw [Bool.not_eq_false] at hblank
    refine not_mem_of_isNumeral hu ?_ ?_ hc
    · by_contra hdigit
      rw [Bool.not_eq_false] at hdigit
      rw [Text.isBlank_of_isDigit hdigit] at hblank
      cases hblank
    · rintro rfl
      exact absurd hblank (by decide)
  intro c hc
  rcases List.mem_append.1 hc with hc | hc
  · exact numeral hyear c hc
  rcases List.mem_cons.1 hc with rfl | hc
  · decide
  · exact numeral hnumber c hc

/-- **What is read as a key** is what writes it when it is trimmed. -/
theorem parse?_eq_some_iff_trim : parse? t = some k ↔ Writes (Text.trim t) k := by
  constructor
  · intro h
    rw [parse?] at h
    split at h
    next year c number hspan =>
      obtain ⟨y, hy, h⟩ := Option.bind_eq_some_iff.1 h
      obtain ⟨n, hn, h⟩ := Option.bind_eq_some_iff.1 h
      cases h
      rw [List.span_eq_takeWhile_dropWhile, Prod.mk.injEq] at hspan
      obtain ⟨hyear, hrest⟩ := hspan
      have hyphen : c = '-' := by
        have head := List.head_dropWhile_not (· != '-') (l := Text.trim t) (by rw [hrest]; simp)
        simpa [hrest] using head
      refine ⟨year, number, ?_, part?_eq_some_iff.1 hy, part?_eq_some_iff.1 hn⟩
      rw [← hyphen, ← hrest, ← hyear, List.takeWhile_append_dropWhile]
    next => cases h
  · rintro ⟨year, number, ht, hyear, hnumber⟩
    rw [parse?, ht, span_hyphen hyear]
    simp [part?_eq_some_iff.2 hyear, part?_eq_some_iff.2 hnumber]

/-- **The texts that are read as a key** are its spellings. -/
theorem parse?_eq_some_iff : parse? t = some k ↔ Spells t k := by
  rw [parse?_eq_some_iff_trim]
  constructor
  · intro h
    obtain ⟨lead, trail, hlead, htrail, ht⟩ := Text.exists_trim t
    exact ⟨lead, Text.trim t, trail, ht, h, hlead, htrail⟩
  · rintro ⟨lead, core, trail, rfl, hcore, hlead, htrail⟩
    rwa [Text.trim_between hlead hcore.isBlank_eq_false htrail]

/-! ### The text of a key among its spellings -/

/-- A text has no plus sign, and neither of the parts around a hyphen has a needless zero. -/
structure IsBare (t : Text) : Prop where
  /-- There is no plus sign. -/
  plus : '+' ∉ t
  /-- There is no needless zero. -/
  zeros : ∀ year number, t = year ++ '-' :: number → ¬IsPadded year ∧ ¬IsPadded number

theorem writes_text (k : SessionKey) : Writes k.text k :=
  ⟨decimal k.year.toNat, decimal k.sessionId.toNat, by rw [text, List.append_assoc]; rfl,
    .bare (isDigits_decimal _), .bare (isDigits_decimal _)⟩

theorem isBare_text (k : SessionKey) : IsBare k.text := by
  have hyphen : ∀ n, '-' ∉ decimal n := fun n => (isDigits_decimal n).not_mem rfl
  have hplus : ∀ n, '+' ∉ decimal n := fun n => (isDigits_decimal n).not_mem rfl
  have htext : k.text = decimal k.year.toNat ++ '-' :: decimal k.sessionId.toNat := by
    rw [text, List.append_assoc]
    rfl
  refine ⟨?_, fun year number h => ?_⟩
  · rw [htext, List.mem_append, List.mem_cons]
    rintro (h | h | h)
    · exact hplus _ h
    · exact absurd h (by decide)
    · exact hplus _ h
  · obtain ⟨rfl, -, rfl⟩ :=
      (List.append_cons_inj_of_notMem (hyphen _) (hyphen _)).1 (htext.symm.trans h)
    exact ⟨not_isPadded_decimal _, not_isPadded_decimal _⟩

/-- A numeral without a plus sign and a needless zero is the number in decimal digits. -/
theorem eq_decimal {n : Nat} (h : IsNumeral t n) (hplus : '+' ∉ t) (hpad : ¬IsPadded t) :
    t = decimal n := by
  cases h with
  | bare h =>
      obtain ⟨hne, hdigits, rfl⟩ := isDigits_iff.1 h
      exact (decimal_digitsValue hne hdigits hpad).symm
  | plus h => exact absurd (List.mem_cons_self ..) hplus

/-- **The spelling without plus signs and needless zeros** is the text of the key. -/
theorem eq_text_of_writes (h : Writes t k) (hbare : IsBare t) : t = k.text := by
  obtain ⟨year, number, rfl, hyear, hnumber⟩ := h.numerals
  obtain ⟨hpadYear, hpadNumber⟩ := hbare.zeros year number rfl
  have hplus := hbare.plus
  rw [List.mem_append, List.mem_cons, not_or, not_or] at hplus
  rw [text, ← eq_decimal hyear hplus.1 hpadYear, ← eq_decimal hnumber hplus.2.2 hpadNumber,
    List.append_assoc]
  rfl

/-- **The text form of keys is an exact codec.**  The text of a key is read as the key, so that keys
with one text are one key.  A text is read as a key just when it spells the key, so that writing out
what was read changes it no more; and of all spellings the text of the key is the one that is
trimmed and has no plus sign and no needless zero. -/
theorem read_as_spelled :
    (∀ k, parse? k.text = some k) ∧ Function.Injective text ∧
      (∀ t k, parse? t = some k ↔ Spells t k) ∧
      (∀ t, (parse? t).bind (fun k => parse? k.text) = parse? t) ∧
      ∀ t k, t = k.text ↔ parse? t = some k ∧ Text.trim t = t ∧ IsBare t := by
  refine ⟨parse?_text, ?_, fun t k => parse?_eq_some_iff, fun t => ?_, fun t k => ⟨?_, ?_⟩⟩
  · intro k l h
    have read := congrArg parse? h
    rw [parse?_text, parse?_text] at read
    exact Option.some.inj read
  · cases parse? t with
    | none => rfl
    | some k => exact parse?_text k
  · rintro rfl
    exact ⟨parse?_text k, Text.trim_eq_self (writes_text k).isBlank_eq_false, isBare_text k⟩
  · rintro ⟨hparse, htrim, hbare⟩
    rw [parse?_eq_some_iff_trim, htrim] at hparse
    exact eq_text_of_writes hparse hbare

/-- Plus signs, needless zeros and blanks of any kind are read past, and gone when the key is
written out; a number beyond 32 bits, a second hyphen or a digit of another script is no key. -/
theorem padded_read_as_spelled :
    Spells "\u00A0+02015-+000101\t".toList ⟨2015, 101⟩ ∧
      "2015-101".toList = text ⟨2015, 101⟩ ∧ ¬IsBare "\u00A0+02015-+000101\t".toList ∧
      (¬∃ k, Spells "4294967296-0".toList k) ∧ (¬∃ k, Spells "2015-101-2".toList k) ∧
      ¬∃ k, Spells "２０１５-101".toList k := by
  obtain ⟨-, -, spelled, -, own⟩ := read_as_spelled
  have none_spelled : ∀ {t : Text}, parse? t = none → ¬∃ k, Spells t k := by
    rintro t ht ⟨k, hk⟩
    rw [(spelled t k).2 hk] at ht
    cases ht
  refine ⟨(spelled _ _).1 (by decide), by decide,
    fun h => h.plus (by decide),
    none_spelled (by decide), none_spelled (by decide),
    none_spelled (by decide)⟩

end SessionKey

end TranscriptSearch
