import TranscriptSearch.Complaint
import TranscriptSearch.Moment

/-!
# Command line — output

What is printed, as pieces. Most pieces are the program's own words; the others are known only
when they are printed: the words of the machine or of a reader of a format, and times.

* `Output.text`: the printed text, for a time that the build took.
-/

namespace TranscriptSearch

/-- A piece of output. -/
inductive Piece where
  /-- The program's own words. -/
  | words (t : Text)
  /-- The words of whoever refused. -/
  | foreign (t : Text)
  /-- The time that a build took, for a reader. -/
  | elapsed
  /-- The time that a build took, in milliseconds. -/
  | milliseconds
  /-- A moment. -/
  | moment (m : Moment)
deriving DecidableEq, Repr

/-- What is printed. -/
abbrev Output := List Piece

namespace Output

/-- Words. -/
def ofText (t : Text) : Output := [.words t]

/-- Words. -/
def ofString (s : String) : Output := [.words s.toList]

/-- What is said of a failure. -/
def ofComplaint (c : Complaint) : Output := .words c.text :: (c.detail.map Piece.foreign).toList

/-- A line of its own. -/
def line (o : Output) : Output := o ++ [.words ['\n']]

/-- Lines of their own. -/
def lines (os : List Output) : Output := os.flatMap line

end Output

/-- A time for a reader: milliseconds, and from a second on seconds with one place. -/
def elapsedText (ms : Nat) : Text :=
  if ms < 1000 then Number.decimal ms ++ ['m', 's']
  else
    let tenths := (ms + 50) / 100
    Number.decimal (tenths / 10) ++ ['.'] ++ Number.decimal (tenths % 10) ++ ['s']

/-- The text of a piece, for a time in milliseconds that a build took. -/
def Piece.text (ms : Nat) : Piece → Text
  | .words t      => t
  | .foreign t    => t
  | .elapsed      => elapsedText ms
  | .milliseconds => Number.decimal ms
  | .moment m     => m.text

/-- The printed text, for a time in milliseconds that a build took. -/
def Output.text (ms : Nat) (o : Output) : Text := o.flatMap (Piece.text ms)

end TranscriptSearch
