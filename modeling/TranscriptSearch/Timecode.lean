import TranscriptSearch.Number.Shortest

/-!
# Timecodes

The offset of a line into the recording of its session, in seconds. Only a finite offset that
is not below zero can be indexed.

* `Timecode.isValid`: whether an offset can be indexed.
* `Timecode.label`: the whole second by which a line is addressed.
-/

namespace TranscriptSearch

/-- An offset in seconds. -/
abbrev Timecode := Number.Binary64

namespace Timecode

/-- Finite and not below zero. -/
def isValid (t : Timecode) : Bool := t.isFinite && !t.isBelowZero

/-- The largest second that a label shows. -/
def largestSecond : Nat := UInt64.size - 1

/-- The nearest whole second, a half rounded up; zero for an offset that is not valid. -/
def label (t : Timecode) : Text :=
  if isValid t then Number.decimal (min t.roundToNat largestSecond) else ['0']

end Timecode

end TranscriptSearch
