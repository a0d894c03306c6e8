import TranscriptSearch.Json.Basic
import TranscriptSearch.Number.Binary64
import TranscriptSearch.Number.Decimal

/-!
# Json — the value of a number

A written number is read in two steps. Its leading digits, as many as fit into 64 bits, make a
natural number; the digits left out before the point, the digits taken after it and the written
exponent make a power of ten. The natural number is rounded to binary64 and then multiplied or
divided once by the power of ten, which is rounded as well. A number too large for binary64 has
no value.

* `natural?`: the value of a number written with digits alone.
* `binary64?`: the value of any number.
-/

namespace TranscriptSearch.Json

open Number

/-- The value of a number written with digits alone, below a limit. -/
def natural? (limit : Nat) : Json → Option Nat
  | .number t => digits? limit t
  | _         => none

/-- A natural number times a power of ten. -/
structure Scaled where
  /-- The natural number, below `2 ^ 64`. -/
  leading : Nat
  /-- The power of ten. -/
  exponent : Int
deriving DecidableEq, Repr

/-- The largest natural number that digits are gathered into. -/
def largestLeading : Nat := UInt64.size - 1

/-- The digits before the point. The first digit that does not fit is left out with all after
it, and each digit left out counts for a power of ten. -/
def Scaled.addWhole (s : Scaled) : Text → Scaled
  | [] => s
  | c :: rest =>
    if largestLeading < 10 * s.leading + digitValue c then
      { s with exponent := s.exponent + (rest.length + 1) }
    else addWhole { s with leading := 10 * s.leading + digitValue c } rest

/-- The digits after the point. The first digit that does not fit is left out with all after
it, and each digit taken lowers the power of ten. -/
def Scaled.addFraction (s : Scaled) : Text → Scaled
  | [] => s
  | c :: rest =>
    if largestLeading < 10 * s.leading + digitValue c then s
    else addFraction ⟨10 * s.leading + digitValue c, s.exponent - 1⟩ rest

/-- An exponent after its mark. -/
def writtenExponent : Text → Int
  | '-' :: ds => -(digitsValue ds : Int)
  | '+' :: ds => digitsValue ds
  | ds        => digitsValue ds

/-- The natural number and the power of ten of a number without its sign. -/
def Scaled.ofWritten (t : Text) : Scaled :=
  let whole := t.takeWhile isDigit
  let rest := t.dropWhile isDigit
  let fraction := if rest.head? = some '.' then (rest.drop 1).takeWhile isDigit else []
  let tail := if rest.head? = some '.' then (rest.drop 1).dropWhile isDigit else rest
  let s := (Scaled.addWhole ⟨0, 0⟩ whole).addFraction fraction
  { s with exponent := s.exponent + writtenExponent (tail.drop 1) }

/-- The largest power of ten that binary64 holds. -/
def largestPower : Nat := 308

/-- A magnitude divided by a power of ten, by the largest one as often as it takes. -/
def divideByPower : (rounds : Nat) → Binary64 → Nat → Binary64
  | 0, _, _ => .zero
  | rounds + 1, x, e =>
    if e ≤ largestPower then x.dividedBy (.ofNat (Nat.pow 10 e))
    else if x.isZero then x
    else divideByPower rounds (x.dividedBy (.ofNat (Nat.pow 10 largestPower))) (e - largestPower)

/-- The magnitude of a natural number and a power of ten. Three divisions by the largest power
make any of them zero. -/
def Scaled.binary64? (s : Scaled) : Option Binary64 :=
  let x := Binary64.ofNat s.leading
  if s.exponent < 0 then some (divideByPower 4 x s.exponent.natAbs)
  else if x.isZero then some x
  else if s.exponent ≤ largestPower then
    let y := x.times (.ofNat (Nat.pow 10 s.exponent.natAbs))
    if y.isFinite then some y else none
  else none

/-- The value of a number as written. -/
def writtenBinary64? : Text → Option Binary64
  | '-' :: t => (Scaled.ofWritten t).binary64?.map .negate
  | t        => (Scaled.ofWritten t).binary64?

/-- The value of a number. -/
def binary64? : Json → Option Binary64
  | .number t => writtenBinary64? t
  | _         => none

end TranscriptSearch.Json
