import TranscriptSearch.Json.Basic
import TranscriptSearch.Number.Decimal

/-!
# Json — tokens

The text of a value, cut into marks and scalars. The cutter goes from character to character;
where the text breaks a rule it leaves a fault and stops. An octet that is no character is
allowed inside a string alone, and makes it a broken string.

* `tokens`: the tokens of a text.
-/

namespace TranscriptSearch.Json

open Number

/-- A mark, a scalar, or the place where the text is wrong. -/
inductive Token where
  | openBrace
  | closeBrace
  | openBracket
  | closeBracket
  | colon
  | comma
  | scalar (v : Json)
  | fault
deriving Repr

/-- The parts of a number, in the order in which they are written. -/
inductive NumberPart where
  | sign
  | leadingZero
  | whole
  | point
  | fraction
  | exponentMark
  | exponentSign
  | exponent
deriving DecidableEq, Repr

namespace NumberPart

/-- Whether a number may end after a part. -/
def mayEnd : NumberPart → Bool
  | .leadingZero | .whole | .fraction | .exponent => true
  | _ => false

/-- The part that a character continues a number with. -/
def next? (p : NumberPart) (c : Char) : Option NumberPart :=
  match p with
  | .sign         => if c = '0' then some .leadingZero else if isDigit c then some .whole else none
  | .leadingZero  => afterWhole
  | .whole        => if isDigit c then some .whole else afterWhole
  | .point        => if isDigit c then some .fraction else none
  | .fraction     => if isDigit c then some .fraction else beforeExponent
  | .exponentMark =>
    if isDigit c then some .exponent else if c = '+' ∨ c = '-' then some .exponentSign else none
  | .exponentSign => if isDigit c then some .exponent else none
  | .exponent     => if isDigit c then some .exponent else none
where
  beforeExponent : Option NumberPart := if c = 'e' ∨ c = 'E' then some .exponentMark else none
  afterWhole : Option NumberPart := if c = '.' then some .point else beforeExponent

end NumberPart

/-- The part of a string that is being read. -/
inductive StringPart where
  /-- Plain characters. -/
  | plain
  /-- After a backslash. -/
  | escape
  /-- In the hexadecimal digits of an escape, of which `left` are to come. -/
  | hex (left value : Nat)
deriving DecidableEq, Repr

/-- A string as far as it is read. -/
structure PartialString where
  /-- The text back to front; nothing once the string is broken. -/
  back : Option Text
  /-- The first half of a surrogate pair that waits for its second half. -/
  half : Option Nat
deriving DecidableEq, Repr

namespace PartialString

/-- No text yet. -/
def empty : PartialString := ⟨some [], none⟩

/-- The string with one more character; a half that waited is left without its partner. -/
def push (s : PartialString) (c : Char) : PartialString :=
  match s.half with
  | none => ⟨s.back.map (c :: ·), none⟩
  | some _ => ⟨none, none⟩

/-- The string with one more octet that is no character. -/
def pushOctet (_ : PartialString) : PartialString := ⟨none, none⟩

/-- The string with one more unit of 16 bits, which may be half of a character. -/
def pushUnit (s : PartialString) (u : Nat) : PartialString :=
  match s.half with
  | none =>
    if 0xD800 ≤ u ∧ u < 0xDC00 then ⟨s.back, some u⟩
    else if 0xDC00 ≤ u ∧ u < 0xE000 then ⟨none, none⟩
    else ⟨s.back.map (Char.ofNat u :: ·), none⟩
  | some h =>
    if 0xDC00 ≤ u ∧ u < 0xE000 then
      ⟨s.back.map (Char.ofNat (0x10000 + (h - 0xD800) * 0x400 + (u - 0xDC00)) :: ·), none⟩
    else ⟨none, none⟩

/-- The string when it is closed. -/
def close (s : PartialString) : Json :=
  match s.back, s.half with
  | some back, none => .string back.reverse
  | _, _ => .brokenString

end PartialString

/-- What is being read. -/
inductive Reading where
  /-- Between tokens. -/
  | gap
  /-- A word of letters, back to front. -/
  | word (back : Text)
  /-- A number, back to front. -/
  | number (part : NumberPart) (back : Text)
  /-- A string. -/
  | string (part : StringPart) (text : PartialString)
  /-- After a fault. -/
  | lost
deriving Repr

/-- The value of a hexadecimal digit. -/
def hexValue? (c : Char) : Option Nat :=
  if isDigit c then some (c.toNat - 48)
  else if 'a' ≤ c ∧ c ≤ 'f' then some (c.toNat - 87)
  else if 'A' ≤ c ∧ c ≤ 'F' then some (c.toNat - 55)
  else none

/-- The character that a short escape stands for. -/
def shortEscape? : Char → Option Char
  | '"'  => some '"'
  | '\\' => some '\\'
  | '/'  => some '/'
  | 'b'  => some '\x08'
  | 'f'  => some '\x0C'
  | 'n'  => some '\n'
  | 'r'  => some '\r'
  | 't'  => some '\t'
  | _    => none

/-- The token of a word. -/
def wordToken (w : Text) : Token :=
  if w = "null".toList then .scalar .null
  else if w = "true".toList then .scalar (.bool true)
  else if w = "false".toList then .scalar (.bool false)
  else .fault

namespace Reading

/-- The token that ends where nothing more is added to it. -/
def finish : Reading → List Token
  | .gap | .lost => []
  | .word back => [wordToken back.reverse]
  | .number p back => [if p.mayEnd then .scalar (.number back.reverse) else .fault]
  | .string _ _ => [.fault]

/-- A character that comes after a token. -/
def start (c : Char) : List Token × Reading :=
  if c = ' ' ∨ c = '\t' ∨ c = '\n' ∨ c = '\r' then ([], .gap)
  else if c = '{' then ([.openBrace], .gap)
  else if c = '}' then ([.closeBrace], .gap)
  else if c = '[' then ([.openBracket], .gap)
  else if c = ']' then ([.closeBracket], .gap)
  else if c = ':' then ([.colon], .gap)
  else if c = ',' then ([.comma], .gap)
  else if c = '"' then ([], .string .plain .empty)
  else if c = '-' then ([], .number .sign [c])
  else if c = '0' then ([], .number .leadingZero [c])
  else if isDigit c then ([], .number .whole [c])
  else if c.isAlpha then ([], .word [c])
  else ([.fault], .lost)

/-- The tokens that end before or with a character, and what is read after it. -/
def step : Reading → Char → List Token × Reading
  | .gap, c => start c
  | .word back, c =>
    if c.isAlpha then ([], .word (c :: back)) else after [wordToken back.reverse] c
  | .number p back, c =>
    match p.next? c with
    | some q => ([], .number q (c :: back))
    | none =>
      if p.mayEnd && !(p == .leadingZero && isDigit c) then
        after [.scalar (.number back.reverse)] c
      else ([.fault], .lost)
  | .string .plain s, c =>
    if c = '"' then ([.scalar s.close], .gap)
    else if c = '\\' then ([], .string .escape s)
    else if c.toNat < 0x20 then ([.fault], .lost)
    else ([], .string .plain (s.push c))
  | .string .escape s, c =>
    if c = 'u' then ([], .string (.hex 4 0) s)
    else
      match shortEscape? c with
      | some e => ([], .string .plain (s.push e))
      | none => ([.fault], .lost)
  | .string (.hex left value) s, c =>
    match hexValue? c with
    | none => ([.fault], .lost)
    | some d =>
      if left ≤ 1 then ([], .string .plain (s.pushUnit (16 * value + d)))
      else ([], .string (.hex (left - 1) (16 * value + d)) s)
  | .lost, _ => ([], .lost)
where
  after (ended : List Token) (c : Char) : List Token × Reading :=
    (ended ++ (start c).1, (start c).2)

/-- The tokens that end before an octet that is no character, and what is read after it. -/
def stepOctet : Reading → List Token × Reading
  | .string .plain s => ([], .string .plain s.pushOctet)
  | .lost => ([], .lost)
  | r => (r.finish ++ [.fault], .lost)

/-- The tokens of the text that is still to be read. -/
def scan : Reading → List (Option Char) → List Token
  | r, [] => r.finish
  | r, some c :: rest => (r.step c).1 ++ scan (r.step c).2 rest
  | r, none :: rest => r.stepOctet.1 ++ scan r.stepOctet.2 rest

end Reading

/-- The tokens of a text. -/
def tokens (input : List (Option Char)) : List Token := Reading.gap.scan input

end TranscriptSearch.Json
