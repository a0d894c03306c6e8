import TranscriptSearch.Json.Fields
import TranscriptSearch.Json.Reader
import TranscriptSearch.Json.Writer
import TranscriptSearch.Transcript.Basic

/-!
# Transcripts — as Json

Transcripts are exchanged as an array of records. The track is left out when it is not known;
lines may be missing when there are none.

* `Transcript.toJson`, `Transcript.ofJson?`: one transcript.
* `Transcript.writeAll`, `Transcript.readText?`: some transcripts as a text.
-/

namespace TranscriptSearch

open Json

/-- A session key as a string. -/
def SessionKey.toJson (k : SessionKey) : Json := .string k.text

/-- The session key of a string. -/
def SessionKey.ofJson? (v : Json) : Option SessionKey := v.text?.bind SessionKey.parse?

/-- A number of 32 bits. -/
def Json.word32? (v : Json) : Option UInt32 := (v.natural? UInt32.size).map .ofNat

namespace Line

/-- The fields of a line. -/
def fieldNames : List String := ["text", "timecode"]

/-- A line as a record. -/
def toJson (l : Line) : Json :=
  .object [member "text" (.string l.text), member "timecode" (ofBinary64 l.timecode)]

/-- The line of a record. -/
def ofJson? (v : Json) : Option Line := do
  let f ← soundFields? fieldNames v
  let text ← (← f.get? 0).text?
  let timecode ← (← f.get? 1).binary64?
  return ⟨text, timecode⟩

end Line

namespace Transcript

/-- The member that a known track is written as. -/
def trackMember : Option Text → List (Option Text × Json)
  | some t => [member "track" (.string t)]
  | none   => []

/-- A transcript as a record. -/
def toJson (t : Transcript) : Json :=
  .object ([member "year" (.ofNat t.year.toNat), member "session_id" (.ofNat t.sessionId.toNat)]
    ++ trackMember t.track ++ [member "lines" (.array (t.lines.map Line.toJson))])

/-- The fields of a transcript. -/
def fieldNames : List String := ["year", "session_id", "track", "lines"]

/-- The transcript of a record. -/
def ofJson? (v : Json) : Option Transcript := do
  let f ← soundFields? fieldNames v
  let year ← (← f.get? 0).word32?
  let sessionId ← (← f.get? 1).word32?
  let track ← ((f.get? 2).getD .null).optionalText?
  let lines ← listOf Line.ofJson? ((f.get? 3).getD (.array []))
  return ⟨year, sessionId, track, lines⟩

/-- Transcripts as a text. -/
def writeAll (ts : List Transcript) : Text := (Json.array (ts.map toJson)).compact

/-- The transcripts of a text, if it holds nothing else. -/
def readText? (t : Text) : Option (List Transcript) :=
  let d := Json.readText t
  if d.ends then listOf ofJson? d.value else none

end Transcript

end TranscriptSearch
