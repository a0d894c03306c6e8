import TranscriptSearch.Number.Decimal

/-!
# Moments

A moment as the clock of a machine tells it: seconds since the start of 1970 in 64 bits with a
sign, and nanoseconds on top. What is written of a moment is its whole second, and zero for all
moments before 1970.

* `Moment.wholeSeconds`: the second that is written of a moment.
* `Moment.ofSeconds?`: the moment at a written second, if the clock reaches it.
-/

namespace TranscriptSearch

/-- A moment of a machine's clock. -/
structure Moment where
  /-- The seconds since the start of 1970, rounded down. -/
  seconds : Int64
  /-- The nanoseconds after the second. -/
  nanoseconds : Fin 1000000000
deriving DecidableEq, Repr

namespace Moment

/-- The moment at which a second starts. -/
def atSecond (seconds : Int64) : Moment := ⟨seconds, 0⟩

/-- The first second that no clock reaches. -/
def limit : Nat := Nat.pow 2 63

/-- The moment at a number of seconds after the start of 1970. -/
def ofSeconds? (n : Nat) : Option Moment := if n < limit then some (atSecond (.ofNat n)) else none

/-- The whole seconds since the start of 1970; none before it. -/
def wholeSeconds (m : Moment) : Nat := m.seconds.toInt.toNat

/-- The moment that is left of a moment when it is written. -/
def truncated (m : Moment) : Moment := atSecond (if m.seconds < 0 then 0 else m.seconds)

/-- The seconds since the start of 1970 as text. -/
def text (m : Moment) : Text :=
  if m.seconds < 0 then "unknown".toList else Number.decimal m.wholeSeconds

end Moment

end TranscriptSearch
