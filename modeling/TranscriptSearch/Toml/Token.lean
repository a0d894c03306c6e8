import TranscriptSearch.Number.Decimal
import TranscriptSearch.Text.Basic

/-!
# Toml — tokens

The text of a document, cut into marks, blanks, line ends, strings, and runs of other
characters. Comments are dropped; the line end after a comment stays. Where the text breaks a
rule the cutter leaves a fault and stops.

* `tokens`: the tokens of a text.
-/

namespace TranscriptSearch.Toml

open Number

/-- A piece of a document. -/
inductive Token where
  | dot
  | equals
  | comma
  | openBracket
  | closeBracket
  | openBrace
  | closeBrace
  | newline
  /-- Spaces and tabs. -/
  | blank (t : Text)
  /-- Other characters up to the next mark, blank or line end. -/
  | run (t : Text)
  /-- A string, and whether it was written in triple quotes. -/
  | string (isTriple : Bool) (t : Text)
  | fault
deriving DecidableEq, Repr

/-- What is read inside a string. -/
inductive StringPart where
  /-- Just after the opening triple quotes, where a line end is dropped. -/
  | fresh
  /-- Content, after as many quotes as may belong to the closing triple quotes. -/
  | content (quotes : Nat)
  /-- After a carriage return, which a line feed has to follow; it is kept or dropped. -/
  | afterReturn (isKept : Bool)
  /-- After a backslash. -/
  | escape
  /-- In the digits of an escape, of which `left` are to come. -/
  | hex (left value : Nat)
  /-- After a backslash at the end of a line, in the blanks that are dropped, before or after
  the line end. -/
  | joining (isBelow : Bool)
  /-- In those blanks, after a carriage return. -/
  | joiningReturn
deriving DecidableEq, Repr

/-- A string that is being read, its text back to front. -/
structure OpenString where
  /-- The quote that closes it. -/
  quote : Char
  /-- Whether it is closed by three quotes. -/
  isTriple : Bool
  /-- The text. -/
  back : Text
deriving DecidableEq, Repr

/-- What is being read. -/
inductive Reading where
  /-- Between tokens. -/
  | gap
  /-- Spaces and tabs, back to front. -/
  | blank (back : Text)
  /-- Other characters, back to front. -/
  | run (back : Text)
  /-- A comment. -/
  | comment
  /-- After a carriage return. -/
  | afterReturn
  /-- After one or two quotes that open a string. -/
  | quotes (quote : Char) (isSecond : Bool)
  /-- Inside a string. -/
  | string (s : OpenString) (part : StringPart)
  /-- After a fault. -/
  | lost
deriving DecidableEq, Repr

/-- Whether a character may stand in a comment or a string as it is. -/
def isPlainChar (c : Char) : Bool := c = '\t' || (0x20 ≤ c.toNat && c.toNat != 0x7F)

/-- The value of a hexadecimal digit. -/
def hexValue? (c : Char) : Option Nat :=
  if isDigit c then some (c.toNat - 48)
  else if 'a' ≤ c ∧ c ≤ 'f' then some (c.toNat - 87)
  else if 'A' ≤ c ∧ c ≤ 'F' then some (c.toNat - 55)
  else none

/-- The character that a short escape stands for. -/
def shortEscape? : Char → Option Char
  | '"'  => some '"'
  | '\\' => some '\\'
  | 'b'  => some '\x08'
  | 't'  => some '\t'
  | 'n'  => some '\n'
  | 'f'  => some '\x0C'
  | 'r'  => some '\r'
  | 'e'  => some '\x1B'
  | _    => none

/-- How many digits an escape of a code point has. -/
def escapeDigits? : Char → Option Nat
  | 'x' => some 2
  | 'u' => some 4
  | 'U' => some 8
  | _   => none

namespace OpenString

/-- The string with one more character. -/
def push (s : OpenString) (c : Char) : OpenString := { s with back := c :: s.back }

/-- The token of the string when it is closed. -/
def close (s : OpenString) : Token := .string s.isTriple s.back.reverse

/-- The string, when `n` quotes in a row are followed by something else: the first three of
them, counted from the end, close it. -/
def closeAfter (s : OpenString) (n : Nat) : Token :=
  .string s.isTriple (List.replicate (n - 3) s.quote ++ s.back).reverse

end OpenString

namespace Reading

/-- The tokens that end with the text. -/
def finish : Reading → List Token
  | .gap | .lost | .comment => []
  | .blank back => [.blank back.reverse]
  | .run back => [.run back.reverse]
  | .afterReturn => [.fault]
  | .quotes _ false => [.fault]
  | .quotes _ true => [.string false []]
  | .string s (.content n) => [if s.isTriple ∧ 3 ≤ n then s.closeAfter n else .fault]
  | .string _ _ => [.fault]

/-- A character that comes after a token. -/
def start (c : Char) : List Token × Reading :=
  if c = '.' then ([.dot], .gap)
  else if c = '=' then ([.equals], .gap)
  else if c = ',' then ([.comma], .gap)
  else if c = '[' then ([.openBracket], .gap)
  else if c = ']' then ([.closeBracket], .gap)
  else if c = '{' then ([.openBrace], .gap)
  else if c = '}' then ([.closeBrace], .gap)
  else if c = '\n' then ([.newline], .gap)
  else if c = '\r' then ([], .afterReturn)
  else if c = ' ' ∨ c = '\t' then ([], .blank [c])
  else if c = '#' then ([], .comment)
  else if c = '"' ∨ c = '\'' then ([], .quotes c false)
  else ([], .run [c])

/-- A character after tokens that it ended. -/
def after (ended : List Token) (c : Char) : List Token × Reading :=
  (ended ++ (start c).1, (start c).2)

/-- Whether a character ends a run of other characters. -/
def endsRun (c : Char) : Bool :=
  ['.', '=', ',', '[', ']', '{', '}', '\n', '\r', ' ', '\t', '#'].contains c

/-- A character inside a string, where `n` quotes came before it. -/
def stepContent (s : OpenString) (n : Nat) (c : Char) : List Token × Reading :=
  if c = s.quote then
    if s.isTriple then
      if n < 5 then ([], .string s (.content (n + 1))) else ([.fault], .lost)
    else ([s.close], .gap)
  else if 3 ≤ n then after [s.closeAfter n] c
  else
    let s := { s with back := List.replicate n s.quote ++ s.back }
    if c = '\\' ∧ s.quote = '"' then ([], .string s .escape)
    else if c = '\n' ∧ s.isTriple then ([], .string (s.push c) (.content 0))
    else if c = '\r' ∧ s.isTriple then ([], .string s (.afterReturn true))
    else if isPlainChar c then ([], .string (s.push c) (.content 0))
    else ([.fault], .lost)

/-- A character after a backslash. -/
def stepEscape (s : OpenString) (c : Char) : List Token × Reading :=
  match shortEscape? c, escapeDigits? c with
  | some e, _ => ([], .string (s.push e) (.content 0))
  | none, some n => ([], .string s (.hex n 0))
  | none, none =>
    if s.isTriple then
      if c = ' ' ∨ c = '\t' then ([], .string s (.joining false))
      else if c = '\n' then ([], .string s (.joining true))
      else if c = '\r' then ([], .string s .joiningReturn)
      else ([.fault], .lost)
    else ([.fault], .lost)

/-- A character in the blanks that a backslash at the end of a line drops. -/
def stepJoining (s : OpenString) (isBelow : Bool) (c : Char) : List Token × Reading :=
  if c = ' ' ∨ c = '\t' then ([], .string s (.joining isBelow))
  else if c = '\n' then ([], .string s (.joining true))
  else if c = '\r' then ([], .string s .joiningReturn)
  else if isBelow then stepContent s 0 c
  else ([.fault], .lost)

/-- The tokens that end before or with a character, and what is read after it. -/
def step : Reading → Char → List Token × Reading
  | .gap, c => start c
  | .blank back, c =>
    if c = ' ' ∨ c = '\t' then ([], .blank (c :: back)) else after [.blank back.reverse] c
  | .run back, c => if endsRun c then after [.run back.reverse] c else ([], .run (c :: back))
  | .comment, c =>
    if c = '\n' then ([.newline], .gap)
    else if c = '\r' then ([], .afterReturn)
    else if isPlainChar c then ([], .comment)
    else ([.fault], .lost)
  | .afterReturn, c => if c = '\n' then ([.newline], .gap) else ([.fault], .lost)
  | .quotes q false, c =>
    if c = q then ([], .quotes q true) else stepContent ⟨q, false, []⟩ 0 c
  | .quotes q true, c =>
    if c = q then ([], .string ⟨q, true, []⟩ .fresh) else after [.string false []] c
  | .string s .fresh, c =>
    if c = '\n' then ([], .string s (.content 0))
    else if c = '\r' then ([], .string s (.afterReturn false))
    else stepContent s 0 c
  | .string s (.content n), c => stepContent s n c
  | .string s (.afterReturn isKept), c =>
    if c = '\n' then
      ([], .string (if isKept then (s.push '\r').push '\n' else s) (.content 0))
    else ([.fault], .lost)
  | .string s .escape, c => stepEscape s c
  | .string s (.hex left value), c =>
    match hexValue? c with
    | none => ([.fault], .lost)
    | some d =>
      if left ≤ 1 then
        if (16 * value + d).isValidChar then
          ([], .string (s.push (Char.ofNat (16 * value + d))) (.content 0))
        else ([.fault], .lost)
      else ([], .string s (.hex (left - 1) (16 * value + d)))
  | .string s (.joining isBelow), c => stepJoining s isBelow c
  | .string s .joiningReturn, c =>
    if c = '\n' then ([], .string s (.joining true)) else ([.fault], .lost)
  | .lost, _ => ([], .lost)

/-- The tokens of the text that is still to be read. -/
def scan : Reading → Text → List Token
  | r, [] => r.finish
  | r, c :: rest => (r.step c).1 ++ scan (r.step c).2 rest

end Reading

/-- The tokens of a text. -/
def tokens (t : Text) : List Token := Reading.gap.scan t

end TranscriptSearch.Toml
