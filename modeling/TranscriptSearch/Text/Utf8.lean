import TranscriptSearch.Text.Basic

/-!
# Text — octets

Text as octets in UTF-8, and octets read back. Octets that are no character are kept in their
place as a gap, so that a reader can tell where text is ill-formed and go on past it.

* `encode`: the octets of a text.
* `decode`: the characters of any octets, `none` for each octet that belongs to no character.
* `decodeAll`: the text of octets that are all well-formed.
-/

namespace TranscriptSearch.Text

/-- The octets of a text. -/
def encode (t : Text) : List UInt8 := t.flatMap String.utf8EncodeChar

/-- The payload of an octet that continues a character. -/
def tail? (b : UInt8) : Option Nat :=
  if 0x80 ≤ b.toNat ∧ b.toNat < 0xC0 then some (b.toNat - 0x80) else none

/-- The character of a code point, if it needs at least `least` to be written in its form. -/
def charFrom? (least n : Nat) : Option Char :=
  if least ≤ n ∧ n.isValidChar then some (Char.ofNat n) else none

/-- The character that two octets write. -/
def pair? (a b : UInt8) : Option Char := do
  guard (0xC0 ≤ a.toNat ∧ a.toNat < 0xE0)
  charFrom? 0x80 ((a.toNat - 0xC0) * 64 + (← tail? b))

/-- The character that three octets write. -/
def triple? (a b c : UInt8) : Option Char := do
  guard (0xE0 ≤ a.toNat ∧ a.toNat < 0xF0)
  charFrom? 0x800 (((a.toNat - 0xE0) * 64 + (← tail? b)) * 64 + (← tail? c))

/-- The character that four octets write. -/
def quadruple? (a b c d : UInt8) : Option Char := do
  guard (0xF0 ≤ a.toNat ∧ a.toNat < 0xF8)
  charFrom? 0x10000
    ((((a.toNat - 0xF0) * 64 + (← tail? b)) * 64 + (← tail? c)) * 64 + (← tail? d))

/-- The character that octets begin with, and how many octets it takes. -/
def leading? : List UInt8 → Option (Char × Nat)
  | a :: rest =>
    if a.toNat < 0x80 then some (Char.ofNat a.toNat, 1)
    else
      match rest with
      | b :: rest =>
        match pair? a b, rest with
        | some ch, _ => some (ch, 2)
        | none, c :: rest =>
          match triple? a b c, rest with
          | some ch, _ => some (ch, 3)
          | none, d :: _ => (quadruple? a b c d).map (·, 4)
          | none, [] => none
        | none, [] => none
      | [] => none
  | [] => none

/-- The characters of octets, of which the first `skip` belong to a character read before. -/
def decodeFrom : (skip : Nat) → List UInt8 → List (Option Char)
  | _, [] => []
  | skip + 1, _ :: rest => decodeFrom skip rest
  | 0, a :: rest =>
    match leading? (a :: rest) with
    | some (ch, n) => some ch :: decodeFrom (n - 1) rest
    | none => none :: decodeFrom 0 rest

/-- The characters of octets, `none` for each octet that belongs to no character. -/
def decode (octets : List UInt8) : List (Option Char) := decodeFrom 0 octets

/-- The text of octets, if all of them belong to characters. -/
def decodeAll (octets : List UInt8) : Option Text := (decode octets).mapM id

end TranscriptSearch.Text
