import TranscriptSearch.Text.Basic

/-!
# Number — natural numbers in hexadecimal digits

* `hexadecimal`: the digits of a number, without leading zeros.
* `hexadecimalFixed`: the last digits of a number, as many as asked for.
-/

namespace TranscriptSearch.Number

/-- A number in lower-case hexadecimal digits. -/
def hexadecimal (n : Nat) : Text := Nat.toDigits 16 n

/-- The last `width` lower-case hexadecimal digits of a number. -/
def hexadecimalFixed : (width : Nat) → Nat → Text
  | 0, _ => []
  | width + 1, n => hexadecimalFixed width (n / 16) ++ [Nat.digitChar (n % 16)]

end TranscriptSearch.Number
