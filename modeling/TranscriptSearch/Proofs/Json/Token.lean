import TranscriptSearch.Proofs.Json.Number

/-!
# Json — the tokens of a written value

* `IsWritable`: the values that can be told from their texts.
* `tokensOf`: the tokens of a value.
* `scan_compact`: the text of a writable value is cut into its tokens.
-/

namespace TranscriptSearch.Json

open Number
open Reading (gap scan step start)

/-! ### Values and their tokens -/

mutual

/-- Whether a value can be told from its text: its numbers are numbers, its strings are texts,
and it has no fault. -/
def IsWritable : Json → Prop
  | .null | .bool _ | .string _ => True
  | .number t                   => IsNumber t
  | .array es                   => AreWritable es
  | .object ms                  => MembersWritable ms
  | .brokenString | .fault      => False

/-- Whether all elements are writable. -/
def AreWritable : List Json → Prop
  | []      => True
  | e :: es => IsWritable e ∧ AreWritable es

/-- Whether all members are writable. -/
def MembersWritable : List (Option Text × Json) → Prop
  | []           => True
  | (k, v) :: ms => k.isSome ∧ IsWritable v ∧ MembersWritable ms

end

mutual

/-- The tokens of a value. -/
def tokensOf : Json → List Token
  | .array es  => [.openBracket] ++ tokensOfElements true es ++ [.closeBracket]
  | .object ms => [.openBrace] ++ tokensOfMembers true ms ++ [.closeBrace]
  | v          => [.scalar v]

/-- The tokens of elements, each but the first after a comma. -/
def tokensOfElements (isFirst : Bool) : List Json → List Token
  | []      => []
  | e :: es => (if isFirst then [] else [.comma]) ++ tokensOf e ++ tokensOfElements false es

/-- The tokens of members, each but the first after a comma. -/
def tokensOfMembers (isFirst : Bool) : List (Option Text × Json) → List Token
  | []           => []
  | (k, v) :: ms =>
    (if isFirst then [] else [.comma]) ++ [.scalar (.string (k.getD [])), .colon] ++ tokensOf v
      ++ tokensOfMembers false ms

end

theorem areWritable_iff {es : List Json} : AreWritable es ↔ ∀ e ∈ es, IsWritable e := by
  induction es with
  | nil => simp [AreWritable]
  | cons e es ih => simp [AreWritable, ih]

theorem membersWritable_iff {ms : List (Option Text × Json)} :
    MembersWritable ms ↔ ∀ m ∈ ms, m.1.isSome ∧ IsWritable m.2 := by
  induction ms with
  | nil => simp [MembersWritable]
  | cons m ms ih => simp [MembersWritable, ih, and_assoc]

/-! ### The end of a word or number -/

/-- What may come after a word or a number: nothing, or a mark that closes or separates. -/
def Delimits (rest : List (Option Char)) : Prop :=
  rest = [] ∨ ∃ c more, rest = some c :: more ∧ (c = ',' ∨ c = ']' ∨ c = '}')

theorem delimits_nil : Delimits [] := .inl rfl

theorem delimits_comma (rest : List (Option Char)) : Delimits (some ',' :: rest) :=
  .inr ⟨_, _, rfl, .inl rfl⟩

theorem delimits_closeBracket (rest : List (Option Char)) : Delimits (some ']' :: rest) :=
  .inr ⟨_, _, rfl, .inr (.inl rfl)⟩

theorem delimits_closeBrace (rest : List (Option Char)) : Delimits (some '}' :: rest) :=
  .inr ⟨_, _, rfl, .inr (.inr rfl)⟩

variable {rest : List (Option Char)}

theorem scan_word_end (hd : Delimits rest) (back : Text) :
    (Reading.word back).scan rest = wordToken back.reverse :: gap.scan rest := by
  obtain rfl | ⟨c, more, rfl, rfl | rfl | rfl⟩ := hd <;> rfl

theorem scan_number_end (hd : Delimits rest) {p : NumberPart} (hp : p.mayEnd = true) (back : Text) :
    (Reading.number p back).scan rest = .scalar (.number back.reverse) :: gap.scan rest := by
  obtain rfl | ⟨c, more, rfl, rfl | rfl | rfl⟩ := hd <;> cases p <;> first | rfl | cases hp

/-! ### Numbers -/

theorem scan_number_run {p q : NumberPart} {t : Text} (h : p.run? t = some q) (back : Text) :
    (Reading.number p back).scan (t.map some ++ rest) =
      (Reading.number q (t.reverse ++ back)).scan rest := by
  induction t generalizing p back with
  | nil =>
      cases h
      rfl
  | cons c t ih =>
      rw [NumberPart.run?] at h
      cases hp : p.next? c with
      | none => rw [hp] at h; cases h
      | some r =>
          rw [hp] at h
          have hstep : (Reading.number p back).step c = ([], Reading.number r (c :: back)) := by
            rw [step, hp]
          rw [List.map_cons, List.cons_append, scan, hstep, List.nil_append, ih h,
            List.reverse_cons, List.append_assoc, List.singleton_append]

/-- A digit begins a number as it would after a sign. -/
theorem start_of_sign {c : Char} {p : NumberPart} (h : NumberPart.sign.next? c = some p) :
    start c = ([], Reading.number p [c]) := by
  rw [NumberPart.next?] at h
  split at h
  next hc =>
    subst hc
    cases h
    rfl
  next hzero =>
    split at h <;> cases h
    next hdigit =>
      -- a digit is none of the marks, which stand below or above the digits
      have hne : ∀ d, isDigit d = false → c ≠ d := fun d hd e => by
        rw [e, hd] at hdigit
        cases hdigit
      have hgap : ¬(c = ' ' ∨ c = '\t' ∨ c = '\n' ∨ c = '\r') := by
        rintro (e | e | e | e) <;> exact hne _ (by decide) e
      rw [start, if_neg hgap, if_neg (hne '{' (by decide)), if_neg (hne '}' (by decide)),
        if_neg (hne '[' (by decide)), if_neg (hne ']' (by decide)), if_neg (hne ':' (by decide)),
        if_neg (hne ',' (by decide)), if_neg (hne '"' (by decide)), if_neg (hne '-' (by decide)),
        if_neg hzero, if_pos hdigit]

/-- The text of a number without a sign, after `back`. -/
theorem scan_unsigned {t : Text} (h : IsUnsigned t) (hd : Delimits rest) (back : Text) :
    (Reading.number .sign back).scan (t.map some ++ rest) =
      .scalar (.number (back.reverse ++ t)) :: gap.scan rest := by
  obtain ⟨p, hp, hend⟩ := h
  rw [scan_number_run hp, scan_number_end hd hend, List.reverse_append, List.reverse_reverse]

/-- **The text of a number is one token.** -/
theorem scan_number {t : Text} (h : IsNumber t) (hd : Delimits rest) :
    gap.scan (t.map some ++ rest) = .scalar (.number t) :: gap.scan rest := by
  obtain ⟨p, hp, hend⟩ | ⟨u, rfl, hu⟩ := h
  · cases t with
    | nil => cases hp; cases hend
    | cons c t =>
        rw [NumberPart.run?] at hp
        cases hc : NumberPart.sign.next? c with
        | none => rw [hc] at hp; cases hp
        | some q =>
            rw [hc] at hp
            rw [List.map_cons, List.cons_append, scan, step, start_of_sign hc, List.nil_append,
              scan_number_run hp, scan_number_end hd hend]
            simp
  · exact scan_unsigned hu hd ['-']

/-! ### Strings -/

theorem hexValue?_digitChar : ∀ n < 16, hexValue? (Nat.digitChar n) = some n := by decide

/-- The string after one more character. -/
theorem push_mk (back : Text) (c : Char) :
    PartialString.push ⟨some back, none⟩ c = ⟨some (c :: back), none⟩ := rfl

/-- A unit below all halves is a character. -/
theorem pushUnit_mk (back : Text) {u : Nat} (h : u < 0xD800) :
    PartialString.pushUnit ⟨some back, none⟩ u = ⟨some (Char.ofNat u :: back), none⟩ := by
  simp [PartialString.pushUnit, Nat.not_le.2 h, show ¬ 0xDC00 ≤ u by omega]

/-- A hexadecimal digit that is not the last one. -/
theorem scan_hex {c : Char} {left value d : Nat} {s : PartialString} (hc : hexValue? c = some d)
    (hleft : ¬ left ≤ 1) :
    (Reading.string (.hex left value) s).scan (some c :: rest) =
      (Reading.string (.hex (left - 1) (16 * value + d)) s).scan rest := by
  simp only [scan, step, hc, if_neg hleft, List.nil_append]

/-- The last hexadecimal digit. -/
theorem scan_hex_last {c : Char} {value d : Nat} {s : PartialString} (hc : hexValue? c = some d) :
    (Reading.string (.hex 1 value) s).scan (some c :: rest) =
      (Reading.string .plain (s.pushUnit (16 * value + d))).scan rest := by
  simp only [scan, step, hc, Nat.le_refl, if_true, List.nil_append]

/-- **An escaped character is read as the character.** -/
theorem scan_escapedChar (c : Char) (back : Text) :
    (Reading.string .plain ⟨some back, none⟩).scan ((escapedChar c).map some ++ rest) =
      (Reading.string .plain ⟨some (c :: back), none⟩).scan rest := by
  rw [escapedChar]
  split
  next h => obtain rfl | rfl := h <;> rfl
  next hmark =>
    split
    next h => subst h; rfl
    split
    next h => subst h; rfl
    split
    next h => subst h; rfl
    split
    next h => subst h; rfl
    split
    next h => subst h; rfl
    split
    next hcontrol =>
      -- four hexadecimal digits, of which the first two are zero
      have hzero := hexValue?_digitChar 0 (by decide)
      have h₁ := hexValue?_digitChar (c.toNat / 16 % 16) (Nat.mod_lt _ (by decide))
      have h₂ := hexValue?_digitChar (c.toNat % 16) (Nat.mod_lt _ (by decide))
      have hvalue : 16 * (16 * (16 * (16 * 0 + 0) + 0) + c.toNat / 16 % 16) + c.toNat % 16 =
          c.toNat := by omega
      calc (Reading.string .plain ⟨some back, none⟩).scan
            ((['\\', 'u', '0', '0'] ++ hexadecimalFixed 2 c.toNat).map some ++ rest)
        _ = (Reading.string (.hex 4 0) ⟨some back, none⟩).scan (some (Nat.digitChar 0) ::
              some (Nat.digitChar 0) :: some (Nat.digitChar (c.toNat / 16 % 16)) ::
              some (Nat.digitChar (c.toNat % 16)) :: rest) := rfl
        _ = (Reading.string .plain
              (PartialString.pushUnit ⟨some back, none⟩ c.toNat)).scan rest := by
          rw [scan_hex hzero (by decide), scan_hex hzero (by decide), scan_hex h₁ (by decide),
            scan_hex_last h₂, hvalue]
        _ = (Reading.string .plain ⟨some (c :: back), none⟩).scan rest := by
          rw [pushUnit_mk back (by omega), Char.ofNat_toNat]
    next hcontrol =>
      rw [not_or] at hmark
      have hstep : (Reading.string .plain ⟨some back, none⟩).step c =
          ([], .string .plain ⟨some (c :: back), none⟩) := by
        rw [step, if_neg hmark.1, if_neg hmark.2, if_neg hcontrol, push_mk]
      rw [List.map_singleton, List.singleton_append, scan, hstep, List.nil_append]

theorem scan_flatMap_escapedChar (t back : Text) (rest : List (Option Char)) :
    (Reading.string .plain ⟨some back, none⟩).scan ((t.flatMap escapedChar).map some ++ rest) =
      (Reading.string .plain ⟨some (t.reverse ++ back), none⟩).scan rest := by
  induction t generalizing back with
  | nil => rfl
  | cons c t ih =>
      rw [List.flatMap_cons, List.map_append, List.append_assoc, scan_escapedChar, ih,
        List.reverse_cons, List.append_assoc, List.singleton_append]

/-- **The text of a string is one token.** -/
theorem scan_string (t : Text) :
    gap.scan ((writeString t).map some ++ rest) = .scalar (.string t) :: gap.scan rest := by
  have body := scan_flatMap_escapedChar t [] (some '"' :: rest)
  rw [List.append_nil] at body
  have open' : gap.scan ((writeString t).map some ++ rest) =
      (Reading.string .plain ⟨some [], none⟩).scan
        ((t.flatMap escapedChar).map some ++ some '"' :: rest) := by
    rw [writeString, List.map_append, List.map_append, List.append_assoc, List.append_assoc]
    rfl
  have close : PartialString.close ⟨some t.reverse, none⟩ = .string t :=
    congrArg Json.string t.reverse_reverse
  rw [open', body, scan, step, if_pos rfl, close]
  rfl

/-! ### Values -/

/-- After an element there is a comma, or what comes after all elements. -/
theorem delimits_compactElements (hd : Delimits rest) (es : List Json) :
    Delimits ((compactElements false es).map some ++ rest) := by
  cases es with
  | nil => exact hd
  | cons e es => exact delimits_comma _

/-- After a member there is a comma, or what comes after all members. -/
theorem delimits_compactMembers (hd : Delimits rest) (ms : List (Option Text × Json)) :
    Delimits ((compactMembers false ms).map some ++ rest) := by
  cases ms with
  | nil => exact hd
  | cons m ms => exact delimits_comma _

/-- A comma before all parts but the first. -/
theorem scan_comma (isFirst : Bool) (more : List (Option Char)) :
    gap.scan ((if isFirst then [] else [',']).map some ++ more) =
      (if isFirst then [] else [.comma]) ++ gap.scan more := by
  cases isFirst <;> rfl

mutual

/-- **The text of a writable value is cut into its tokens.** -/
theorem scan_compact : (v : Json) → IsWritable v → {rest : List (Option Char)} → Delimits rest →
    gap.scan ((compact v).map some ++ rest) = tokensOf v ++ gap.scan rest
  | .null, _, _, hd => scan_word_end hd "llun".toList
  | .bool true, _, _, hd => scan_word_end hd "eurt".toList
  | .bool false, _, _, hd => scan_word_end hd "eslaf".toList
  | .number _, h, _, hd => scan_number h hd
  | .string t, _, _, _ => scan_string t
  | .array es, h, rest, _ => by
      have inner := scan_compactElements true es h (delimits_closeBracket rest)
      calc gap.scan ((compact (.array es)).map some ++ rest)
        _ = .openBracket :: gap.scan ((compactElements true es).map some ++ some ']' :: rest) := by
          simp only [compact, List.map_append, List.append_assoc]
          rfl
        _ = tokensOf (.array es) ++ gap.scan rest := by
          rw [inner, tokensOf, List.append_assoc, List.append_assoc]
          rfl
  | .object ms, h, rest, _ => by
      have inner := scan_compactMembers true ms h (delimits_closeBrace rest)
      calc gap.scan ((compact (.object ms)).map some ++ rest)
        _ = .openBrace :: gap.scan ((compactMembers true ms).map some ++ some '}' :: rest) := by
          simp only [compact, List.map_append, List.append_assoc]
          rfl
        _ = tokensOf (.object ms) ++ gap.scan rest := by
          rw [inner, tokensOf, List.append_assoc, List.append_assoc]
          rfl

/-- So are the texts of elements. -/
theorem scan_compactElements (isFirst : Bool) : (es : List Json) → AreWritable es →
    {rest : List (Option Char)} → Delimits rest →
    gap.scan ((compactElements isFirst es).map some ++ rest) =
      tokensOfElements isFirst es ++ gap.scan rest
  | [], _, _, _ => rfl
  | e :: es, h, rest, hd => by
      rw [compactElements, tokensOfElements, List.map_append, List.map_append, List.append_assoc,
        List.append_assoc, scan_comma, scan_compact e h.1 (delimits_compactElements hd es),
        scan_compactElements false es h.2 hd]
      simp only [List.append_assoc]

/-- So are the texts of members. -/
theorem scan_compactMembers (isFirst : Bool) : (ms : List (Option Text × Json)) →
    MembersWritable ms → {rest : List (Option Char)} → Delimits rest →
    gap.scan ((compactMembers isFirst ms).map some ++ rest) =
      tokensOfMembers isFirst ms ++ gap.scan rest
  | [], _, _, _ => rfl
  | (k, v) :: ms, h, rest, hd => by
      have value := scan_compact v h.2.1 (delimits_compactMembers hd ms)
      have colon : ∀ more, gap.scan ([':'].map some ++ more) = .colon :: gap.scan more :=
        fun _ => rfl
      rw [compactMembers, tokensOfMembers]
      simp only [List.map_append, List.append_assoc] at value ⊢
      rw [scan_comma, scan_string, colon, value, scan_compactMembers false ms h.2.2 hd]
      rfl

end

end TranscriptSearch.Json
