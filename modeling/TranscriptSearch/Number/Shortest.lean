import TranscriptSearch.Number.Binary64
import TranscriptSearch.Number.Decimal

/-!
# Number — the fewest digits that read back

A finite number is written with the fewest decimal digits that round to it. The decimals that
round to a number form an interval, its ends included when the significand is even. On the
grids of ever smaller powers of ten the two neighbours of the number are tried; the first grid
with a hit gives the digits, of two hits the nearer one, and a tie is settled by the caller.

* `Binary64.readsBack`: whether a decimal lies in the interval of a number.
* `Binary64.shortest`: the digits and the power of ten.
* `Binary64.positional`: digits with a decimal point and no exponent.
-/

namespace TranscriptSearch.Number

/-- A decimal `digits * 10 ^ exponent`. -/
structure DecimalForm where
  /-- The digits as a natural number. -/
  digits : Nat
  /-- The power of ten. -/
  exponent : Int
deriving DecidableEq, Repr

/-- Which of two equally near decimals is taken. -/
inductive Tie where
  /-- The one whose last digit is even. -/
  | toEven
  /-- The larger one. -/
  | up
deriving DecidableEq, Repr

/-- The order of `a * 10 ^ i` and `n * 2 ^ j`. -/
def compareScaled (a : Nat) (i : Int) (n : Nat) (j : Int) : Ordering :=
  compare (a * Nat.pow 10 i.toNat * Nat.pow 2 (-j).toNat)
    (n * Nat.pow 2 j.toNat * Nat.pow 10 (-i).toNat)

namespace Binary64

/-- Whether the number below a magnitude is half as far away as the number above it. -/
def narrowBelow (x : Binary64) : Bool := x.fractionField == 0 && 1 < x.exponentField

/-- Whether a decimal lies among those that round to a finite magnitude. -/
def readsBack (x : Binary64) (d : DecimalForm) : Bool :=
  let low := compareScaled d.digits d.exponent
    (if x.narrowBelow then 4 * x.significand - 1 else 4 * x.significand - 2) (x.scale - 2)
  let high := compareScaled d.digits d.exponent (4 * x.significand + 2) (x.scale - 2)
  let even := x.significand % 2 == 0
  (low == .gt || (even && low == .eq)) && (high == .lt || (even && high == .eq))

/-- The multiple of `10 ^ e` at or below a finite magnitude. -/
def gridBelow (x : Binary64) (e : Int) : Nat :=
  x.num * Nat.pow 10 (-e).toNat / (x.den * Nat.pow 10 e.toNat)

/-- A decimal of the grid `10 ^ e` that reads back, if there is one. -/
def onGrid (tie : Tie) (x : Binary64) (e : Int) : Option DecimalForm :=
  let n := x.gridBelow e
  let below : DecimalForm := ⟨n, e⟩
  let above : DecimalForm := ⟨n + 1, e⟩
  match x.readsBack below && 0 < n, x.readsBack above with
  | true, false => some below
  | false, true => some above
  | false, false => none
  | true, true =>
    match compareScaled (2 * n + 1) e (2 * x.significand) x.scale with
    | .lt => some above
    | .gt => some below
    | .eq => some (if tie == .toEven && n % 2 == 0 then below else above)

/-- The first hit on the grids `10 ^ e`, `10 ^ (e - 1)`, and so on. -/
def searchGrids (tie : Tie) (x : Binary64) : Nat → Int → Option DecimalForm
  | 0, _ => none
  | fuel + 1, e => (x.onGrid tie e).or (searchGrids tie x fuel (e - 1))

/-- A power of ten at or above every finite magnitude with the binary exponent of `x`. -/
def topGrid (x : Binary64) : Int :=
  let e : Int := (x.significand.log2 : Int) + x.scale + 1
  if 0 ≤ e then e * 30103 / 100000 + 1 else -(-e * 30102 / 100000) + 1

/-- The digits of the exact value of a finite magnitude. -/
def exactForm (x : Binary64) : DecimalForm :=
  if 0 ≤ x.scale then ⟨x.num, 0⟩ else ⟨x.significand * Nat.pow 5 (-x.scale).toNat, x.scale⟩

/-- The fewest digits that round to a finite magnitude. -/
def shortest (tie : Tie) (x : Binary64) : DecimalForm :=
  if x.isZero then ⟨0, 0⟩ else (x.searchGrids tie 20 x.topGrid).getD x.exactForm

end Binary64

/-- Digits with a decimal point and no exponent; a whole number has no point. -/
def DecimalForm.positional (d : DecimalForm) : Text :=
  let digits := decimal d.digits
  if 0 ≤ d.exponent then
    if d.digits = 0 then ['0'] else digits ++ List.replicate d.exponent.toNat '0'
  else
    let places := (-d.exponent).toNat
    let padded := List.replicate (places + 1 - digits.length) '0' ++ digits
    padded.take (padded.length - places) ++ ['.'] ++ padded.drop (padded.length - places)

/-- A number in the fewest digits that read back, without an exponent. -/
def Binary64.positional (x : Binary64) : Text :=
  if x.isNaN then "NaN".toList
  else
    (if x.isNegative then ['-'] else [])
      ++ if x.isFinite then (x.shortest .up).positional else "inf".toList

end TranscriptSearch.Number
