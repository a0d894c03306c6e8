import TranscriptSearch.Number.Decimal
import TranscriptSearch.Text.Basic

/-!
# Toml — writing

A string is written in the first of the forms that suit it: in double quotes when nothing in it
needs an escape, in single quotes when those need none, and otherwise in triple quotes of one
kind or the other, or in double quotes with escapes. In triple quotes a text with line ends
begins on a line of its own.

* `writeString`: a string in the form that suits it.
* `writeStrings`: an array of strings, on one line when there is at most one of them.
-/

namespace TranscriptSearch.Toml

open Number

/-- How a string may be written. -/
inductive StringForm where
  /-- In double quotes, with escapes. -/
  | basic
  /-- In single quotes, as it is. -/
  | literal
  /-- In three double quotes, with escapes. -/
  | tripleBasic
  /-- In three single quotes, as it is. -/
  | tripleLiteral
deriving DecidableEq, Repr

/-- The length of the longest run of a character, where a run of `n` came before. -/
def longestRun (q : Char) : (n : Nat) → Text → Nat
  | n, [] => n
  | n, c :: rest => if c = q then longestRun q (n + 1) rest else max n (longestRun q 0 rest)

/-- Whether a character can only be written as an escape. -/
def needsEscape (c : Char) : Bool :=
  (c.toNat < 0x20 && c != '\t' && c != '\n') || c.toNat == 0x7F

/-- The form that suits a string. -/
def formOf (t : Text) : StringForm :=
  let escapes := t.any needsEscape
  let backslash := t.contains '\\'
  let newline := t.contains '\n'
  let double := longestRun '"' 0 t
  let single := longestRun '\'' 0 t
  if !escapes && !backslash && double = 0 && !newline then .basic
  else if !escapes && single = 0 && !newline then .literal
  else if !escapes && !backslash && double ≤ 2 then .tripleBasic
  else if !escapes && single ≤ 2 then .tripleLiteral
  else if newline then .tripleBasic else .basic

/-- The last four hexadecimal digits of a number, in upper case. -/
def upperHex (n : Nat) : Text :=
  ([n / 4096 % 16, n / 256 % 16, n / 16 % 16, n % 16].map Nat.digitChar).map Char.toUpper

/-- A character other than a double quote, in double quotes. -/
def escapedChar (isTriple : Bool) (c : Char) : Text :=
  if c = '\x08' then ['\\', 'b']
  else if c = '\t' then ['\\', 't']
  else if c = '\n' then if isTriple then [c] else ['\\', 'n']
  else if c = '\x0C' then ['\\', 'f']
  else if c = '\r' then ['\\', 'r']
  else if c = '\\' then ['\\', '\\']
  else if c.toNat < 0x20 || c.toNat == 0x7F then ['\\', 'u'] ++ upperHex c.toNat
  else [c]

/-- The text of a string in double quotes. A double quote stands as it is while at most
`allowed` of them follow one another; `n` came before. -/
def escaped (isTriple : Bool) (allowed : Nat) : (n : Nat) → Text → Text
  | _, [] => []
  | n, c :: rest =>
    if c = '"' then
      if n < allowed then c :: escaped isTriple allowed (n + 1) rest
      else ['\\', '"'] ++ escaped isTriple allowed 0 rest
    else escapedChar isTriple c ++ escaped isTriple allowed 0 rest

/-- The line end that opens a text with line ends in triple quotes. -/
def opening (t : Text) : Text := if t.contains '\n' then ['\n'] else []

/-- A string in the form that suits it. -/
def writeString (t : Text) : Text :=
  match formOf t with
  | .basic         => ['"'] ++ escaped false 0 0 t ++ ['"']
  | .literal       => ['\''] ++ t ++ ['\'']
  | .tripleBasic   => ['"', '"', '"'] ++ opening t ++ escaped true 2 0 t ++ ['"', '"', '"']
  | .tripleLiteral => ['\'', '\'', '\''] ++ opening t ++ t ++ ['\'', '\'', '\'']

/-- An array of strings. -/
def writeStrings : List Text → Text
  | [] => ['[', ']']
  | [t] => ['['] ++ writeString t ++ [']']
  | ts =>
    ['[', '\n'] ++ ts.flatMap (fun t => "    ".toList ++ writeString t ++ [',', '\n']) ++ [']']

/-- A line that sets a key. -/
def writePair (key : String) (value : Text) : Text :=
  key.toList ++ " = ".toList ++ value ++ ['\n']

end TranscriptSearch.Toml
