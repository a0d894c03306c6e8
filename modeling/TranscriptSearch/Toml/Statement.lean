import TranscriptSearch.Toml.Scalar
import TranscriptSearch.Toml.Token

/-!
# Toml — statements

Tokens are put together to statements: headers, and values at keys. The arrays and tables that
are open inside a value are held on a stack. A line end may stand between the parts of an array
or a table in braces, before and after the equals sign too, but not inside a key.

* `statements?`: the statements of a list of tokens, if they follow one another as they should.
-/

namespace TranscriptSearch.Toml

/-- A statement. -/
inductive Statement where
  /-- A header in single or double brackets. -/
  | header (isElement : Bool) (path : Path)
  /-- A value at a key. -/
  | pair (path : Path) (value : Toml)
deriving Repr

/-- A value that is still open, the innermost one being read. -/
inductive Frame where
  /-- The value of a statement. -/
  | pair (path : Path)
  /-- An array, its elements back to front. -/
  | array (back : List Toml)
  /-- A table in braces, and the key whose value is being read. -/
  | table (entries : Entries) (path : Path)
deriving Repr

/-- What comes next. -/
inductive Place where
  /-- A statement. -/
  | lineStart
  /-- The end of the line. -/
  | lineEnd
  /-- The second bracket of a header, or its first key. -/
  | headerStart
  /-- A key of a header, after the keys `back`, which are given back to front. -/
  | headerKey (isElement : Bool) (back : List Text)
  /-- A dot or the end of a header. -/
  | headerDot (isElement : Bool) (back : List Text)
  /-- The second closing bracket of a header. -/
  | headerEnd (path : Path)
  /-- A part of a key. -/
  | key (frames : List Frame) (entries : Entries) (back : List Text)
  /-- A dot or the equals sign after a key. -/
  | keyDot (frames : List Frame) (entries : Entries) (back : List Text)
  /-- The equals sign, on a line after the key. -/
  | equals (frames : List Frame) (entries : Entries) (back : List Text)
  /-- A value. -/
  | value (frames : List Frame)
  /-- More of a scalar without quotes. -/
  | scalar (frames : List Frame) (t : Text)
  /-- After a scalar and blanks, the time of day that belongs to a date, or whatever else. -/
  | scalarGap (frames : List Frame) (t gap : Text)
  /-- A comma, or the end of the array or table. -/
  | separator (frames : List Frame)
  /-- Nothing, after a fault. -/
  | lost
deriving Repr

/-- A statement that ends, and what comes next. -/
abbrev Move := Option Statement × Place

namespace Place

/-- A fault. -/
def fail : Move := (none, .lost)

/-- No statement ends. -/
def go (p : Place) : Move := (none, p)

/-- How many arrays and tables may be open in one another. -/
def depthLimit : Nat := 80

/-- Whether a run may be a key. -/
def isBareKey (t : Text) : Bool :=
  t.all fun c => c.isAlpha || Number.isDigit c || c == '_' || c == '-'

/-- The key that a token is. -/
def key? : Token → Option Text
  | .run t          => if isBareKey t then some t else none
  | .string false t => some t
  | _               => none

/-- The path of keys given back to front. -/
def path? : List Text → Option Path
  | []        => none
  | k :: back => some ⟨back.reverse, k⟩

/-- A value that is complete. -/
def put (v : Toml) : List Frame → Move
  | [.pair path] => (some (.pair path v), .lineEnd)
  | .array back :: outer => go (.separator (.array (v :: back) :: outer))
  | .table entries path :: outer =>
    match put? path v .braces entries with
    | some (_, entries) => go (.separator (.table entries path :: outer))
    | none => fail
  | _ => fail

/-- A scalar that is complete. -/
def putScalar (t : Text) (frames : List Frame) : Move :=
  match scalar? t with
  | some v => put v frames
  | none => fail

/-- The end of an array. -/
def closeArray : List Frame → Move
  | .array back :: outer => put (.array false back.reverse) outer
  | _ => fail

/-- The end of a table in braces. -/
def closeTable (entries : Entries) (frames : List Frame) : Move :=
  put (.table .braces entries) frames

/-- Whether an array or a table is open. -/
def isInside : List Frame → Bool
  | [] | [.pair _] => false
  | _ => true

/-- One more value is open. -/
def enter (p : Place) (frames : List Frame) : Move :=
  if frames.length ≤ depthLimit then go p else fail

/-- A token at the end of a line. -/
def stepLineEnd : Token → Move
  | .blank _ => go .lineEnd
  | .newline => go .lineStart
  | _ => fail

/-- A token after a value in an array or a table. -/
def stepSeparator : List Frame → Token → Move
  | frames, .blank _ => go (.separator frames)
  | frames, .newline => go (.separator frames)
  | .array back :: outer, .comma => go (.value (.array back :: outer))
  | .array back :: outer, .closeBracket => closeArray (.array back :: outer)
  | .table entries _ :: outer, .comma => go (.key outer entries [])
  | .table entries _ :: outer, .closeBrace => closeTable entries outer
  | _, _ => fail

/-- What comes after a complete value when the next token is already there. -/
def continueWith (m : Move) (t : Token) : Move :=
  match m with
  | (s, .lineEnd) => (s, (stepLineEnd t).2)
  | (_, .separator frames) => stepSeparator frames t
  | _ => fail

/-- A token where a value has to stand. -/
def stepValue (frames : List Frame) : Token → Move
  | .blank _ => go (.value frames)
  | .newline => if isInside frames then go (.value frames) else fail
  | .run t => go (.scalar frames t)
  | .dot => go (.scalar frames ['.'])
  | .string _ t => put (.string t) frames
  | .openBracket => enter (.value (.array [] :: frames)) frames
  | .openBrace => enter (.key frames [] []) frames
  | .closeBracket => closeArray frames
  | _ => fail

/-- A token where a part of a key has to stand; `frames` is empty outside values. -/
def stepKey (frames : List Frame) (entries : Entries) (back : List Text) : Token → Move
  | .blank _ => go (.key frames entries back)
  | .newline =>
    if back.isEmpty ∧ !frames.isEmpty then go (.key frames entries back) else fail
  | .closeBrace => if back.isEmpty ∧ !frames.isEmpty then closeTable entries frames else fail
  | t =>
    match key? t with
    | some k => go (.keyDot frames entries (k :: back))
    | none => fail

/-- The equals sign after a key. -/
def openPair (frames : List Frame) (entries : Entries) (back : List Text) : Move :=
  match path? back with
  | some path =>
    if frames.isEmpty then go (.value [.pair path])
    else go (.value (.table entries path :: frames))
  | none => fail

/-- A token after a part of a key. -/
def stepKeyDot (frames : List Frame) (entries : Entries) (back : List Text) : Token → Move
  | .blank _ => go (.keyDot frames entries back)
  | .newline => if frames.isEmpty then fail else go (.equals frames entries back)
  | .dot => go (.key frames entries back)
  | .equals => openPair frames entries back
  | _ => fail

/-- A token on a line after a key. -/
def stepEquals (frames : List Frame) (entries : Entries) (back : List Text) : Token → Move
  | .blank _ => go (.equals frames entries back)
  | .newline => go (.equals frames entries back)
  | .equals => openPair frames entries back
  | _ => fail

/-- A token after a key of a header. -/
def stepHeaderDot (isElement : Bool) (back : List Text) : Token → Move
  | .blank _ => go (.headerDot isElement back)
  | .dot => go (.headerKey isElement back)
  | .closeBracket =>
    match path? back with
    | some path =>
      if isElement then go (.headerEnd path) else (some (.header false path), .lineEnd)
    | none => fail
  | _ => fail

/-- A token where a key of a header has to stand. -/
def stepHeaderKey (isElement : Bool) (back : List Text) : Token → Move
  | .blank _ => go (.headerKey isElement back)
  | t =>
    match key? t with
    | some k => go (.headerDot isElement (k :: back))
    | none => fail

/-- The place after one more token. -/
def step : Place → Token → Move
  | .lineStart, .blank _ => go .lineStart
  | .lineStart, .newline => go .lineStart
  | .lineStart, .openBracket => go .headerStart
  | .lineStart, t => stepKey [] [] [] t
  | .lineEnd, t => stepLineEnd t
  | .headerStart, .openBracket => go (.headerKey true [])
  | .headerStart, t => stepHeaderKey false [] t
  | .headerKey isElement back, t => stepHeaderKey isElement back t
  | .headerDot isElement back, t => stepHeaderDot isElement back t
  | .headerEnd path, .closeBracket => (some (.header true path), .lineEnd)
  | .headerEnd _, _ => fail
  | .key frames entries back, t => stepKey frames entries back t
  | .keyDot frames entries back, t => stepKeyDot frames entries back t
  | .equals frames entries back, t => stepEquals frames entries back t
  | .value frames, t => stepValue frames t
  | .scalar frames u, .run t => go (.scalar frames (u ++ t))
  | .scalar frames u, .dot => go (.scalar frames (u ++ ['.']))
  | .scalar frames u, .blank gap => go (.scalarGap frames u gap)
  | .scalar frames u, t => continueWith (putScalar u frames) t
  | .scalarGap frames u gap, .run t => go (.scalar frames (u ++ gap ++ t))
  | .scalarGap frames u _, t => continueWith (putScalar u frames) t
  | .separator frames, t => stepSeparator frames t
  | .lost, _ => fail

/-- The statement that ends with the document, and whether the document may end here. -/
def finish : Place → Option Statement × Bool
  | .lineStart | .lineEnd => (none, true)
  | .scalar frames u | .scalarGap frames u _ =>
    match putScalar u frames with
    | (s, .lineEnd) => (s, true)
    | _ => (none, false)
  | _ => (none, false)

/-- The statements of the tokens to come, if they follow one another as they should. -/
def scan : Place → List Token → Option (List Statement)
  | p, [] => if p.finish.2 then some p.finish.1.toList else none
  | p, t :: rest => (scan (p.step t).2 rest).map ((p.step t).1.toList ++ ·)

end Place

/-- The statements of a document. -/
def statements? (t : Text) : Option (List Statement) := Place.lineStart.scan (tokens t)

/-- The entries of a document so far, and the tables of the header in force. -/
structure Document where
  /-- The entries. -/
  entries : Entries
  /-- The keys of the header. -/
  header : List Text
deriving Repr

/-- The document after one more statement. -/
def Document.apply? (d : Document) : Statement → Option Document
  | .header isElement path => do
    let es ← if isElement then openElement? path d.entries else openTable? path d.entries
    return ⟨es, path.tables ++ [path.key]⟩
  | .pair path v => do
    let (_, es) ← change? false (put? path v) d.header .header d.entries
    return { d with entries := es }

/-- The mark that may stand in front of a document. -/
def byteOrderMark : Char := '\uFEFF'

/-- A document without the mark in front of it. -/
def withoutMark : Text → Text
  | c :: rest => if c = byteOrderMark then rest else c :: rest
  | [] => []

/-- The entries of the document that a text writes. -/
def read? (t : Text) : Option Entries := do
  let d ← (← statements? (withoutMark t)).foldlM Document.apply? ⟨[], []⟩
  return d.entries

end TranscriptSearch.Toml
