import TranscriptSearch.Number.Hexadecimal
import TranscriptSearch.Text.Printable

/-!
# Text — quoted text

A text between double quotes, for messages: what would not show on its own is written as an
escape. Tab, line feed, carriage return, the null character, the backslash and the double quote
have short escapes; a single quote needs none.
-/

namespace TranscriptSearch.Text

/-- A character as it stands between quotes. -/
def quotedChar (c : Char) : Text :=
  if c = '\x00' then ['\\', '0']
  else if c = '\t' then ['\\', 't']
  else if c = '\n' then ['\\', 'n']
  else if c = '\r' then ['\\', 'r']
  else if c = '\\' ∨ c = '"' then ['\\', c]
  else if standsAlone c then [c]
  else ['\\', 'u', '{'] ++ Number.hexadecimal c.toNat ++ ['}']

/-- A text between double quotes, with escapes for what does not show. -/
def quoted (t : Text) : Text := ['"'] ++ t.flatMap quotedChar ++ ['"']

end TranscriptSearch.Text
