import TranscriptSearch.Index.Stored
import TranscriptSearch.Transcript.Codec

/-!
# Index — the stored form as Json

A session is a record of its attributes and its lines together; other members are allowed in it
as long as they could be taken as they are. The occurrences are an object with a member for
each term; of members with one key the last one stands.

* `Stored.toJson`, `Stored.ofJson?`: the stored form.
* `Index.serialize`, `Index.deserialize`: an index as a text.
-/

namespace TranscriptSearch

open Json

namespace Posting

/-- The fields of an occurrence. -/
def fieldNames : List String := ["session", "line", "timecode"]

/-- An occurrence as a record. -/
def toJson (p : Posting) : Json :=
  .object [member "session" p.session.toJson, member "line" (.ofNat p.line),
    member "timecode" (ofBinary64 p.timecode)]

/-- The occurrence of a record. -/
def ofJson? (v : Json) : Option Posting := do
  let f ← soundFields? fieldNames v
  let session ← SessionKey.ofJson? (← f.get? 0)
  let line ← (← f.get? 1).natural? UInt32.size
  let timecode ← (← f.get? 2).binary64?
  return ⟨session, line, timecode⟩

end Posting

namespace StoredSession

/-- A session as a record. -/
def toJson (s : StoredSession) : Json :=
  .object ([member "year" (.ofNat s.attributes.year.toNat),
      member "session_id" (.ofNat s.attributes.sessionId.toNat)]
    ++ Transcript.trackMember s.attributes.track
    ++ [member "lines" (.array (s.lines.map Line.toJson))])

/-- The session of an object, whose other members nest at most `depth` deep. -/
def ofJson? (depth : Nat) : Json → Option StoredSession
  | .object ms => do
    let f := Fields.ofMembers (Transcript.fieldNames.map String.toList) (isPlain depth) [] ms
    guard f.isSound
    let year ← (← f.get? 0).word32?
    let sessionId ← (← f.get? 1).word32?
    let track ← ((f.get? 2).getD .null).optionalText?
    let lines ← listOf Line.ofJson? (← f.get? 3)
    return ⟨⟨year, sessionId, track⟩, lines⟩
  | _ => none

end StoredSession

namespace Stored

/-- The fields of a stored form. -/
def fieldNames : List String := ["min_token_len", "sessions", "postings"]

/-- A stored form as a record. -/
def toJson (d : Stored) : Json :=
  .object [member "min_token_len" (.ofNat d.minLength),
    member "sessions" (.array (d.sessions.map StoredSession.toJson)),
    member "postings"
      (.object (d.postings.toList.map fun e => (some e.1, .array (e.2.map Posting.toJson))))]

/-- The occurrences of one term. -/
def termOfMember? (m : Option Text × Json) : Option (Text × List Posting) := do
  return (← m.1, ← listOf Posting.ofJson? m.2)

/-- The occurrences by term. -/
def postingsOfJson? : Json → Option (SortedMap Text (List Posting))
  | .object ms => (ms.mapM termOfMember?).map .ofList
  | _ => none

/-- How deep the text of a value may nest where it has to be taken as it is. -/
def depthLimit : Nat := 127

/-- The stored form of a record that stands `depth` arrays and objects deep. -/
def ofJson? (depth : Nat) (v : Json) : Option Stored := do
  let f ← soundFields? fieldNames v
  let minLength ← (← f.get? 0).natural? UInt64.size
  let sessions ← listOf (StoredSession.ofJson? (depthLimit - depth - 3)) (← f.get? 1)
  let postings ← postingsOfJson? (← f.get? 2)
  return ⟨minLength, sessions, postings⟩

end Stored

namespace Index

/-- Why a text is no index. -/
inductive DecodeError where
  /-- The text is not the text of a stored form. -/
  | malformed
  /-- The parts of the stored form disagree. -/
  | inconsistent (fault : Inconsistency)
deriving DecidableEq, Repr

/-- An index as a text. -/
def serialize (x : Index) : Text := x.stored.toJson.compact

/-- The index of a text. -/
def deserialize (t : Text) : Except DecodeError Index :=
  let d := Json.readText t
  match if d.ends then Stored.ofJson? 0 d.value else none with
  | none => .error .malformed
  | some s => s.index.mapError .inconsistent

end Index

end TranscriptSearch
