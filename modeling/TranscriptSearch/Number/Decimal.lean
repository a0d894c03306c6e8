import TranscriptSearch.Text.Basic

/-!
# Number — natural numbers in decimal digits

* `decimal`: the digits of a number, without leading zeros.
* `digitsValue`: the value of a row of digits, leading zeros allowed.
* `natural?`: reads digits after at most one plus sign, below a limit.
-/

namespace TranscriptSearch.Number

/-- A number in decimal digits. -/
def decimal (n : Nat) : Text := Nat.toDigits 10 n

/-- Whether a character is one of the ten ASCII digits. -/
def isDigit (c : Char) : Bool := '0' ≤ c && c ≤ '9'

/-- The value of an ASCII digit. -/
def digitValue (c : Char) : Nat := c.toNat - 48

/-- The value of a row of ASCII digits, on top of the digits read before. -/
def digitsValueFrom (acc : Nat) : Text → Nat
  | [] => acc
  | c :: rest => digitsValueFrom (10 * acc + digitValue c) rest

/-- The value of a row of ASCII digits. -/
def digitsValue (t : Text) : Nat := digitsValueFrom 0 t

/-- The number below `limit` that one or more digits write. -/
def digits? (limit : Nat) (t : Text) : Option Nat :=
  if !t.isEmpty && t.all isDigit && digitsValue t < limit then some (digitsValue t) else none

/-- The number below `limit` that digits after at most one plus sign write. -/
def natural? (limit : Nat) : Text → Option Nat
  | '+' :: rest => digits? limit rest
  | t => digits? limit t

end TranscriptSearch.Number
