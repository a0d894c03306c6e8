import TranscriptSearch.Text.Basic
import TranscriptSearch.Text.Ranges

/-!
# Text — blanks

A blank is a character with the Unicode property White_Space. The controls from U+001C to
U+001F, the zero width space and the byte order mark are not blanks.

* `words`: the maximal runs of characters that are not blanks.
* `trim`: text without the blanks at its two ends.
* `squeeze`: text with its words one space apart.
-/

namespace TranscriptSearch.Text

/-- The code points with the property White_Space. -/
def blankRanges : CodeRanges where
  ranges :=
    [(0x9, 0xD), (0x20, 0x20), (0x85, 0x85), (0xA0, 0xA0), (0x1680, 0x1680), (0x2000, 0x200A),
     (0x2028, 0x2029), (0x202F, 0x202F), (0x205F, 0x205F), (0x3000, 0x3000)]
  ascending := by decide

/-- Whether a character is a blank. -/
def isBlank (c : Char) : Bool := blankRanges.contains c.toNat

/-- The maximal runs of characters that are not blanks, in order. -/
def words (t : Text) : List Text := runs (fun c => !isBlank c) t

/-- The words of a text, one space apart. -/
def squeeze (t : Text) : Text := [' '].intercalate (words t)

/-- Text without the blanks before its first and after its last other character. -/
def trim (t : Text) : Text := ((t.dropWhile isBlank).reverse.dropWhile isBlank).reverse

end TranscriptSearch.Text
