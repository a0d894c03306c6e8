import TranscriptSearch.SessionKey
import TranscriptSearch.Timecode

/-!
# Transcripts

What was said in a session: the session's year and number, its track when that is known, and
its lines in the order in which they were spoken.
-/

namespace TranscriptSearch

/-- A spoken line. -/
structure Line where
  /-- What was said. -/
  text : Text
  /-- When it was said. -/
  timecode : Timecode
deriving DecidableEq, Repr

/-- The transcript of a session. -/
structure Transcript where
  /-- The year of the conference. -/
  year : UInt32
  /-- The number of the session within the year. -/
  sessionId : UInt32
  /-- The track of the session, when known. -/
  track : Option Text
  /-- The lines, in the order in which they were spoken. -/
  lines : List Line
deriving DecidableEq, Repr

/-- The key of the session of a transcript. -/
def Transcript.key (t : Transcript) : SessionKey := ⟨t.year, t.sessionId⟩

end TranscriptSearch
