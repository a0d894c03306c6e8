import TranscriptSearch.Json.Basic
import TranscriptSearch.Number.Hexadecimal
import TranscriptSearch.Number.Shortest

/-!
# Json — writing a value

* `Json.compact`: a value on one line, without blanks.
* `Json.indented`: a value with one part on a line, two spaces deeper in each array or object.
* `Json.ofBinary64`: a number in the fewest digits that read back; without an exponent while
  the power of ten of the first digit is from -5 to 15.
-/

namespace TranscriptSearch.Json

open Number

/-- A character as it stands in a string. -/
def escapedChar (c : Char) : Text :=
  if c = '"' ∨ c = '\\' then ['\\', c]
  else if c = '\x08' then ['\\', 'b']
  else if c = '\x0C' then ['\\', 'f']
  else if c = '\n' then ['\\', 'n']
  else if c = '\r' then ['\\', 'r']
  else if c = '\t' then ['\\', 't']
  else if c.toNat < 0x20 then ['\\', 'u', '0', '0'] ++ hexadecimalFixed 2 c.toNat
  else [c]

/-- A string between its quotes. -/
def writeString (t : Text) : Text := ['"'] ++ t.flatMap escapedChar ++ ['"']

/-- Digits and a power of ten as a number: without an exponent while the power of ten of the
first digit is from -5 to 15, and then with at least one place. -/
def writeDecimal (d : DecimalForm) : Text :=
  let digits := decimal d.digits
  let first : Int := digits.length + d.exponent - 1
  if -5 ≤ first ∧ first ≤ 15 then
    d.positional ++ if 0 ≤ d.exponent then ['.', '0'] else []
  else
    digits.take 1 ++ (if digits.length = 1 then [] else ['.'] ++ digits.drop 1)
      ++ ['e', if first < 0 then '-' else '+'] ++ decimal first.natAbs

/-- A finite number. -/
def writeBinary64 (x : Binary64) : Text :=
  (if x.isNegative then ['-'] else []) ++ writeDecimal (x.shortest .toEven)

/-- A number as a value; one that is not finite has no digits and becomes no value. -/
def ofBinary64 (x : Binary64) : Json :=
  if x.isFinite then .number (writeBinary64 x) else .null

/-- A natural number as a value. -/
def ofNat (n : Nat) : Json := .number (decimal n)

/-- A member of an object. -/
def member (key : String) (v : Json) : Option Text × Json := (some key.toList, v)

mutual

/-- A value without blanks. -/
def compact : Json → Text
  | .null         => "null".toList
  | .bool true    => "true".toList
  | .bool false   => "false".toList
  | .number t     => t
  | .string t     => writeString t
  | .brokenString => "null".toList
  | .array es     => ['['] ++ compactElements true es ++ [']']
  | .object ms    => ['{'] ++ compactMembers true ms ++ ['}']
  | .fault        => "null".toList

/-- The elements of an array, each but the first after a comma. -/
def compactElements (isFirst : Bool) : List Json → Text
  | []      => []
  | e :: es => (if isFirst then [] else [',']) ++ compact e ++ compactElements false es

/-- The members of an object, each but the first after a comma. -/
def compactMembers (isFirst : Bool) : List (Option Text × Json) → Text
  | []           => []
  | (k, v) :: ms =>
    (if isFirst then [] else [',']) ++ writeString (k.getD []) ++ [':'] ++ compact v
      ++ compactMembers false ms

end

/-- A new line at a depth. -/
def newLine (depth : Nat) : Text := '\n' :: List.replicate (2 * depth) ' '

mutual

/-- A value whose parts stand on lines of their own. -/
def indentedAt (depth : Nat) : Json → Text
  | .array []        => ['[', ']']
  | .object []       => ['{', '}']
  | .array (e :: es) =>
    ['['] ++ newLine (depth + 1) ++ indentedAt (depth + 1) e ++ indentedElements (depth + 1) es
      ++ newLine depth ++ [']']
  | .object ((k, v) :: ms) =>
    ['{'] ++ newLine (depth + 1) ++ writeString (k.getD []) ++ [':', ' ']
      ++ indentedAt (depth + 1) v ++ indentedMembers (depth + 1) ms ++ newLine depth ++ ['}']
  | v                => compact v

/-- The elements of an array after the first one. -/
def indentedElements (depth : Nat) : List Json → Text
  | []      => []
  | e :: es => [','] ++ newLine depth ++ indentedAt depth e ++ indentedElements depth es

/-- The members of an object after the first one. -/
def indentedMembers (depth : Nat) : List (Option Text × Json) → Text
  | []           => []
  | (k, v) :: ms =>
    [','] ++ newLine depth ++ writeString (k.getD []) ++ [':', ' '] ++ indentedAt depth v
      ++ indentedMembers depth ms

end

/-- A value whose parts stand on lines of their own. -/
def indented (v : Json) : Text := indentedAt 0 v

end TranscriptSearch.Json
