import TranscriptSearch.Json.Token
import TranscriptSearch.Text.Utf8

/-!
# Json — reading a text

Tokens are put together from left to right, the open arrays and objects held on a stack. At
the first token that does not fit, the value read so far gets a fault in that place.

* `read`: the value that a text begins with, and whether the text ends with it.
* `readOctets`: the same of octets.
-/

namespace TranscriptSearch.Json

/-- An array or object that is still open, its parts back to front. -/
inductive Frame where
  /-- An array. -/
  | array (back : List Json)
  /-- An object, and the key whose value is being read. -/
  | object (back : List (Option Text × Json)) (key : Option Text)
deriving Repr

namespace Frame

/-- The frame with one more part. -/
def push (v : Json) : Frame → Frame
  | .array back      => .array (v :: back)
  | .object back key => .object ((key, v) :: back) none

/-- The value of the parts. -/
def close : Frame → Json
  | .array back    => .array back.reverse
  | .object back _ => .object back.reverse

/-- What a comma in a frame is followed by. -/
def isArray : Frame → Bool
  | .array _    => true
  | .object _ _ => false

end Frame

/-- What may come next. -/
inductive Expected where
  /-- A value. -/
  | value
  /-- The first element of an array, or its end. -/
  | elementOrEnd
  /-- A comma, or the end of the array or object. -/
  | separator
  /-- The first key of an object, or its end. -/
  | keyOrEnd
  /-- A key. -/
  | key
  /-- The colon after a key. -/
  | colon
deriving DecidableEq, Repr

/-- How far a value is put together. -/
inductive Assembly where
  /-- Inside the open arrays and objects, innermost first. -/
  | within (frames : List Frame) (expected : Expected)
  /-- A value is complete, or lost at a fault. -/
  | done (document : Document)
deriving Repr

namespace Assembly

/-- The value as far as it was read, with a fault in the innermost open place. -/
def lost (frames : List Frame) : Assembly :=
  .done ⟨frames.foldl (fun v f => (f.push v).close) .fault, false⟩

/-- A complete value inside open arrays and objects. -/
def put (v : Json) : List Frame → Assembly
  | []         => .done ⟨v, true⟩
  | f :: outer => .within (f.push v :: outer) .separator

/-- A token where a value may stand. -/
def begin (frames : List Frame) : Token → Assembly
  | .scalar v    => put v frames
  | .openBracket => .within (.array [] :: frames) .elementOrEnd
  | .openBrace   => .within (.object [] none :: frames) .keyOrEnd
  | _            => lost frames

/-- A token where a key may stand. -/
def name (frames : List Frame) : Token → Assembly
  | .scalar (.string t)    => rename frames (some t)
  | .scalar .brokenString  => rename frames none
  | _                      => lost frames
where
  rename : List Frame → Option Text → Assembly
    | .object back _ :: outer, key => .within (.object back key :: outer) .colon
    | frames, _                    => lost frames

/-- The end of the innermost array or object. -/
def leave : List Frame → Assembly
  | []         => lost []
  | f :: outer => put f.close outer

/-- The assembly after one more token. -/
def step : Assembly → Token → Assembly
  | .done d, _ => .done { d with ends := false }
  | .within frames .value, t => begin frames t
  | .within frames .elementOrEnd, .closeBracket => leave frames
  | .within frames .elementOrEnd, t => begin frames t
  | .within frames .keyOrEnd, .closeBrace => leave frames
  | .within frames .keyOrEnd, t => name frames t
  | .within frames .key, t => name frames t
  | .within frames .colon, .colon => .within frames .value
  | .within frames .colon, _ => lost frames
  | .within (f :: outer) .separator, .comma =>
    .within (f :: outer) (if f.isArray then .value else .key)
  | .within (f :: outer) .separator, .closeBracket =>
    if f.isArray then leave (f :: outer) else lost (f :: outer)
  | .within (f :: outer) .separator, .closeBrace =>
    if f.isArray then lost (f :: outer) else leave (f :: outer)
  | .within frames .separator, _ => lost frames

/-- The document when there are no more tokens. -/
def finish : Assembly → Document
  | .done d          => d
  | .within frames _ =>
    match lost frames with
    | .done d     => d
    | .within _ _ => ⟨.fault, false⟩

end Assembly

/-- The value that a text begins with. -/
def read (input : List (Option Char)) : Document :=
  ((tokens input).foldl Assembly.step (.within [] .value)).finish

/-- The value that a text begins with. -/
def readText (t : Text) : Document := read (t.map some)

/-- The value that octets begin with. -/
def readOctets (octets : List UInt8) : Document := read (Text.decode octets)

end TranscriptSearch.Json
