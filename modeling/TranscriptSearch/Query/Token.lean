import TranscriptSearch.Query.SyntaxError
import TranscriptSearch.Text.Blank

/-!
# Query — tokens

A query is read character by character. Between items the reader skips blanks; an item is a
bare word, a phrase between double quotes, or a `name:value` pair whose value may be quoted. A
quote ends a bare word or value and opens the next item at once, and the item after a closing
quote needs no blank before it.

The reader is a step function on what is being read, so that reading a text in two parts is
reading the first part and going on with the second (`scan_append`).

* `lex`: the tokens of a query, or the fault of a quote that is never closed.
* `lexLenient`: the tokens of any query; an open quote runs to the end of the text.
-/

namespace TranscriptSearch.Query

open Text

/-- An item of a query. -/
inductive Token where
  /-- A bare word. -/
  | word (text : Text)
  /-- The text between two quotes. -/
  | phrase (text : Text)
  /-- A pair of a name and a value, and whether the value was quoted. -/
  | qualifier (name value : Text) (isQuoted : Bool)
deriving DecidableEq, Repr

/-- The text that a token stands for when it is searched for: of a pair, the pair as written. -/
def Token.text : Token → Text
  | .word t               => t
  | .phrase t             => t
  | .qualifier n v true   => n ++ [':', '"'] ++ v ++ ['"']
  | .qualifier n v false  => n ++ [':'] ++ v

/-- What is being read. Text in progress is held back to front. -/
inductive Reading where
  /-- Between items. -/
  | gap
  /-- A bare word, of at least one character. -/
  | word (back : Text)
  /-- A name and its colon, with nothing after it. -/
  | colon (name : Text)
  /-- A bare value, of at least one character. -/
  | value (name back : Text)
  /-- A phrase whose quote is open. -/
  | phrase (back : Text)
  /-- A value whose quote is open. -/
  | quotedValue (name back : Text)
deriving DecidableEq, Repr

namespace Reading

/-- A character that begins an item or continues a gap. -/
def start (c : Char) : Reading :=
  if isBlank c then .gap else if c = '"' then .phrase [] else .word [c]

/-- The token that ends before a character, and what is read after it. -/
def step : Reading → Char → Option Token × Reading
  | .gap, c => (none, start c)
  | .word w, c =>
    if isBlank c ∨ c = '"' then (some (.word w.reverse), start c)
    else if c = ':' then (none, .colon w.reverse)
    else (none, .word (c :: w))
  | .colon n, c =>
    if isBlank c then (some (.word (n ++ [':'])), .gap)
    else if c = '"' then (none, .quotedValue n [])
    else (none, .value n [c])
  | .value n v, c =>
    if isBlank c ∨ c = '"' then (some (.qualifier n v.reverse false), start c)
    else (none, .value n (c :: v))
  | .phrase p, c =>
    if c = '"' then (some (.phrase p.reverse), .gap) else (none, .phrase (c :: p))
  | .quotedValue n v, c =>
    if c = '"' then (some (.qualifier n v.reverse true), .gap) else (none, .quotedValue n (c :: v))

/-- The tokens that end inside a text, and what is being read at its end. -/
def scan : Reading → Text → List Token × Reading
  | r, [] => ([], r)
  | r, c :: rest => ((r.step c).1.toList ++ (scan (r.step c).2 rest).1, (scan (r.step c).2 rest).2)

/-- Reading a text in two parts is reading the first and going on with the second. -/
theorem scan_append (r : Reading) (s t : Text) :
    r.scan (s ++ t) = ((r.scan s).1 ++ ((r.scan s).2.scan t).1, ((r.scan s).2.scan t).2) := by
  induction s generalizing r with
  | nil => simp [scan]
  | cons c s ih => simp [scan, ih]

/-- The text inside a quote that is open. -/
def openQuote : Reading → Option Text
  | .phrase p        => some p.reverse
  | .quotedValue _ v => some v.reverse
  | _                => none

/-- The token that ends with the text. A phrase whose quote is open is closed by the end; a pair
whose quote is open is a word, quote included. -/
def finish : Reading → Option Token
  | .gap             => none
  | .word w          => some (.word w.reverse)
  | .colon n         => some (.word (n ++ [':']))
  | .value n v       => some (.qualifier n v.reverse false)
  | .phrase p        => some (.phrase p.reverse)
  | .quotedValue n v => some (.word (n ++ [':', '"'] ++ v.reverse))

end Reading

/-- The tokens of any query. -/
def lexLenient (input : Text) : List Token :=
  (Reading.gap.scan input).1 ++ (Reading.gap.scan input).2.finish.toList

/-- The tokens of a query. A quote that is never closed is a fault at that quote. -/
def lex (input : Text) : Except SyntaxError (List Token) :=
  match (Reading.gap.scan input).2.openQuote with
  | some inside =>
    .error ⟨SyntaxError.unclosedQuote, utf8Length input - utf8Length ('"' :: inside), input⟩
  | none => .ok (lexLenient input)

end TranscriptSearch.Query
