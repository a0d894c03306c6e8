/-!
# Number — binary floating point

A number of the format binary64 is kept as its 64 bits. Arithmetic is done on exact fractions
of natural numbers and rounded once, to the nearest number, a tie to the even one.

* `Binary64.ofRatio`: the number nearest to a fraction.
* `Binary64.times`, `Binary64.dividedBy`: rounded product and quotient of magnitudes.
* `Binary64.roundToNat`: the nearest whole number, a half rounded up.
-/

namespace TranscriptSearch.Number

/-- A number of the format binary64, as its bits. -/
structure Binary64 where
  /-- Sign, exponent and fraction. -/
  bits : UInt64
deriving DecidableEq, Repr

/-- The quotient of two naturals, rounded to the nearest natural, a tie to the even one. -/
def roundedDiv (num den : Nat) : Nat :=
  let q := num / den
  let r := num % den
  if 2 * r < den then q else if den < 2 * r then q + 1 else q + q % 2

namespace Binary64

/-- The exponent field. -/
def exponentField (x : Binary64) : Nat := x.bits.toNat / Nat.pow 2 52 % Nat.pow 2 11

/-- The fraction field. -/
def fractionField (x : Binary64) : Nat := x.bits.toNat % Nat.pow 2 52

/-- Whether the sign bit is set. -/
def isNegative (x : Binary64) : Bool := Nat.pow 2 63 ≤ x.bits.toNat

/-- Neither infinite nor not-a-number. -/
def isFinite (x : Binary64) : Bool := x.exponentField != 2047

/-- Whether this is no number at all. -/
def isNaN (x : Binary64) : Bool := x.exponentField == 2047 && x.fractionField != 0

/-- Whether this is one of the two zeros. -/
def isZero (x : Binary64) : Bool := x.exponentField == 0 && x.fractionField == 0

/-- Whether this number is less than zero. -/
def isBelowZero (x : Binary64) : Bool := x.isNegative && !x.isNaN && !x.isZero

/-- The integer `m` of a finite magnitude `m * 2 ^ q`. -/
def significand (x : Binary64) : Nat :=
  if x.exponentField = 0 then x.fractionField else Nat.pow 2 52 + x.fractionField

/-- The power of two `q` of a finite magnitude `m * 2 ^ q`. -/
def scale (x : Binary64) : Int := (max x.exponentField 1 : Nat) - 1075

/-- The numerator of a finite magnitude as a fraction. -/
def num (x : Binary64) : Nat := x.significand * Nat.pow 2 x.scale.toNat

/-- The denominator of a finite magnitude as a fraction. -/
def den (x : Binary64) : Nat := Nat.pow 2 (-x.scale).toNat

/-- The bits of infinity. -/
def infinityBits : Nat := 2047 * Nat.pow 2 52

/-- The number of a sign and the bits of a magnitude. -/
def ofMagnitude (isNegative : Bool) (magnitude : Nat) : Binary64 :=
  ⟨.ofNat (if isNegative then Nat.pow 2 63 + magnitude else magnitude)⟩

/-- Infinity with a sign. -/
def infinity (isNegative : Bool) : Binary64 := ofMagnitude isNegative infinityBits

/-- Not a number. -/
def nan : Binary64 := ⟨0x7FF8000000000000⟩

/-- Positive zero. -/
def zero : Binary64 := ⟨0⟩

/-- The number with the other sign. -/
def negate (x : Binary64) : Binary64 :=
  ofMagnitude (!x.isNegative) (x.bits.toNat % Nat.pow 2 63)

/-- Whether `2 ^ e ≤ num / den`. -/
def powLe (e : Int) (num den : Nat) : Bool :=
  den * Nat.pow 2 e.toNat ≤ num * Nat.pow 2 (-e).toNat

/-- The binary exponent of a positive fraction: the `e` with `2 ^ e ≤ num / den < 2 ^ (e + 1)`. -/
def binaryExponent (num den : Nat) : Int :=
  let e : Int := (num.log2 : Int) - den.log2
  if powLe e num den then e else e - 1

/-- The bits of the magnitude nearest to a fraction, infinity when it is too large. -/
def magnitudeOfRatio (num den : Nat) : Nat :=
  if num = 0 then 0
  else
    let q : Int := max (binaryExponent num den - 52) (-1074)
    let m := roundedDiv (num * Nat.pow 2 (-q).toNat) (den * Nat.pow 2 q.toNat)
    min ((q + 1074).toNat * Nat.pow 2 52 + m) infinityBits

/-- The number nearest to a fraction with a sign. -/
def ofRatio (isNegative : Bool) (num den : Nat) : Binary64 :=
  ofMagnitude isNegative (magnitudeOfRatio num den)

/-- The number nearest to a natural. -/
def ofNat (n : Nat) : Binary64 := ofRatio false n 1

/-- The number nearest to `digits * 10 ^ exponent` with a sign. -/
def ofDecimal (isNegative : Bool) (digits : Nat) (exponent : Int) : Binary64 :=
  ofRatio isNegative (digits * Nat.pow 10 exponent.toNat) (Nat.pow 10 (-exponent).toNat)

/-- The rounded product of two finite magnitudes. -/
def times (x y : Binary64) : Binary64 := ofRatio false (x.num * y.num) (x.den * y.den)

/-- The rounded quotient of two finite magnitudes. -/
def dividedBy (x y : Binary64) : Binary64 := ofRatio false (x.num * y.den) (x.den * y.num)

/-- The natural nearest to a finite magnitude, a half rounded up. -/
def roundToNat (x : Binary64) : Nat := (2 * x.num + x.den) / (2 * x.den)

end Binary64

end TranscriptSearch.Number
