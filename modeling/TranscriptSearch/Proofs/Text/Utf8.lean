import TranscriptSearch.Text.Utf8

/-!
# Text — octets read back

* `leading?_encodeChar`: the octets of a character are read as that character.
* `decode_encode`: the octets of a text are read as its characters, without a gap.
-/

namespace TranscriptSearch.Text

/-! ### The octets of a code point -/

/-- A number small enough is an octet. -/
theorem toNat_octet {n : Nat} (h : n < 256) : (UInt8.ofNat n).toNat = n :=
  UInt8.toNat_ofNat_of_lt h

theorem tail?_octet {n : Nat} (h : n < 64) : tail? (.ofNat (n + 0x80)) = some n := by
  rw [tail?, toNat_octet (by omega), if_pos (by omega), Nat.add_sub_cancel]

theorem guard_of {p : Prop} [Decidable p] (h : p) : (guard p : Option Unit) = some () := if_pos h

theorem guard_of_not {p : Prop} [Decidable p] (h : ¬ p) : (guard p : Option Unit) = none := if_neg h

theorem pair?_octets {l m : Nat} (hl : l < 32) (hm : m < 64) :
    pair? (.ofNat (l + 0xC0)) (.ofNat (m + 0x80)) = charFrom? 0x80 (l * 64 + m) := by
  rw [pair?, toNat_octet (by omega), tail?_octet hm, Nat.add_sub_cancel, guard_of (by omega)]
  rfl

theorem triple?_octets {l m n : Nat} (hl : l < 16) (hm : m < 64) (hn : n < 64) :
    triple? (.ofNat (l + 0xE0)) (.ofNat (m + 0x80)) (.ofNat (n + 0x80)) =
      charFrom? 0x800 ((l * 64 + m) * 64 + n) := by
  rw [triple?, toNat_octet (by omega), tail?_octet hm, tail?_octet hn, Nat.add_sub_cancel,
    guard_of (by omega)]
  rfl

theorem quadruple?_octets {k l m n : Nat} (hk : k < 8) (hl : l < 64) (hm : m < 64) (hn : n < 64) :
    quadruple? (.ofNat (k + 0xF0)) (.ofNat (l + 0x80)) (.ofNat (m + 0x80)) (.ofNat (n + 0x80)) =
      charFrom? 0x10000 (((k * 64 + l) * 64 + m) * 64 + n) := by
  rw [quadruple?, toNat_octet (by omega), tail?_octet hl, tail?_octet hm, tail?_octet hn,
    Nat.add_sub_cancel, guard_of (by omega)]
  rfl

/-- An octet that opens a longer form does not open a pair. -/
theorem pair?_eq_none {a : UInt8} (b : UInt8) (h : 0xE0 ≤ a.toNat) : pair? a b = none := by
  rw [pair?, guard_of_not (by omega)]
  rfl

/-- An octet that opens a form of four does not open one of three. -/
theorem triple?_eq_none {a : UInt8} (b c : UInt8) (h : 0xF0 ≤ a.toNat) : triple? a b c = none := by
  rw [triple?, guard_of_not (by omega)]
  rfl

/-! ### Characters -/

theorem charFrom?_toNat {least : Nat} {c : Char} (h : least ≤ c.toNat) :
    charFrom? least c.toNat = some c := by
  rw [charFrom?, if_pos ⟨h, c.valid⟩, Char.ofNat_toNat]

theorem leading?_of_pair {a b : UInt8} {ch : Char} (ha : 0x80 ≤ a.toNat) (h : pair? a b = some ch)
    (rest : List UInt8) : leading? (a :: b :: rest) = some (ch, 2) := by
  simp [leading?, h, Nat.not_lt.2 ha]

theorem leading?_of_triple {a b c : UInt8} {ch : Char} (ha : 0xE0 ≤ a.toNat)
    (h : triple? a b c = some ch) (rest : List UInt8) :
    leading? (a :: b :: c :: rest) = some (ch, 3) := by
  simp [leading?, pair?_eq_none b ha, h, show ¬ a.toNat < 0x80 by omega]

theorem leading?_of_quadruple {a b c d : UInt8} {ch : Char} (ha : 0xF0 ≤ a.toNat)
    (h : quadruple? a b c d = some ch) (rest : List UInt8) :
    leading? (a :: b :: c :: d :: rest) = some (ch, 4) := by
  have ha' : 0xE0 ≤ a.toNat := by omega
  simp [leading?, pair?_eq_none b ha', triple?_eq_none b c ha, h, show ¬ a.toNat < 0x80 by omega]

/-- **The octets of a character are read as that character.** -/
theorem leading?_encodeChar (c : Char) (rest : List UInt8) :
    leading? (String.utf8EncodeChar c ++ rest) = some (c, (String.utf8EncodeChar c).length) := by
  have hmax : c.toNat < 0x110000 := by
    have := c.valid
    simp only [UInt32.isValidChar, Nat.isValidChar] at this
    have : c.val.toNat = c.toNat := rfl
    omega
  rw [String.utf8EncodeChar, show c.val.toNat = c.toNat from rfl]
  -- one, two, three or four octets, by the size of the code point
  by_cases h₁ : c.toNat ≤ 0x7F
  · simp only [if_pos h₁, List.cons_append, leading?]
    rw [toNat_octet (by omega), if_pos (by omega), Char.ofNat_toNat]
    rfl
  by_cases h₂ : c.toNat ≤ 0x7FF
  · simp only [if_neg h₁, if_pos h₂]
    refine leading?_of_pair (by rw [toNat_octet] <;> omega) ?_ rest
    rw [pair?_octets (by omega) (by omega),
      show c.toNat / 64 % 32 * 64 + c.toNat % 64 = c.toNat by omega]
    exact charFrom?_toNat (by omega)
  by_cases h₃ : c.toNat ≤ 0xFFFF
  · simp only [if_neg h₁, if_neg h₂, if_pos h₃]
    refine leading?_of_triple (by rw [toNat_octet] <;> omega) ?_ rest
    rw [triple?_octets (by omega) (by omega) (by omega),
      show (c.toNat / 4096 % 16 * 64 + c.toNat / 64 % 64) * 64 + c.toNat % 64 = c.toNat by omega]
    exact charFrom?_toNat (by omega)
  · simp only [if_neg h₁, if_neg h₂, if_neg h₃]
    refine leading?_of_quadruple (by rw [toNat_octet] <;> omega) ?_ rest
    rw [quadruple?_octets (by omega) (by omega) (by omega) (by omega),
      show ((c.toNat / 262144 % 8 * 64 + c.toNat / 4096 % 64) * 64 + c.toNat / 64 % 64) * 64 +
        c.toNat % 64 = c.toNat by omega]
    exact charFrom?_toNat (by omega)

/-! ### Texts -/

/-- Octets of a character that was read before are passed over. -/
theorem decodeFrom_length_append (l rest : List UInt8) :
    decodeFrom l.length (l ++ rest) = decodeFrom 0 rest := by
  induction l with
  | nil => rfl
  | cons b l ih => exact ih

theorem decodeFrom_encodeChar (c : Char) (rest : List UInt8) :
    decodeFrom 0 (String.utf8EncodeChar c ++ rest) = some c :: decodeFrom 0 rest := by
  have hlead := leading?_encodeChar c rest
  cases hc : String.utf8EncodeChar c with
  | nil => exact absurd hc String.utf8EncodeChar_ne_nil
  | cons b l =>
      rw [hc, List.cons_append] at hlead
      rw [List.cons_append, decodeFrom, hlead]
      exact congrArg (some c :: ·) (decodeFrom_length_append l rest)

/-- **The octets of a text are read as its characters.** -/
theorem decode_encode (t : Text) : decode (encode t) = t.map some := by
  rw [decode, encode]
  induction t with
  | nil => rfl
  | cons c t ih => rw [List.flatMap_cons, decodeFrom_encodeChar, ih, List.map_cons]

end TranscriptSearch.Text
