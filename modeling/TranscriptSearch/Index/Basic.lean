import TranscriptSearch.SortedMap
import TranscriptSearch.Term
import TranscriptSearch.Transcript.Basic

/-!
# Index — postings and sessions

An index holds, for every term, its occurrences in the order in which they were recorded, and
for every session its attributes, its lines and the set of its terms. Searches are answered from
these alone; the transcripts are no longer needed.
-/

namespace TranscriptSearch

/-- One occurrence of a term. -/
structure Posting where
  /-- The session. -/
  session : SessionKey
  /-- The position of the line in the session, from zero. -/
  line : Nat
  /-- The timecode of the line. -/
  timecode : Timecode
deriving DecidableEq, Repr

/-- What qualifiers ask of a session. -/
structure Attributes where
  /-- The year of the conference. -/
  year : UInt32
  /-- The number of the session within the year. -/
  sessionId : UInt32
  /-- The track of the session, when known. -/
  track : Option Text
deriving DecidableEq, Repr

/-- The key of a session with some attributes. -/
def Attributes.key (a : Attributes) : SessionKey := ⟨a.year, a.sessionId⟩

/-- The attributes of the session of a transcript. -/
def Transcript.attributes (t : Transcript) : Attributes := ⟨t.year, t.sessionId, t.track⟩

/-- What an index retains of a session. -/
structure Session where
  /-- The attributes. -/
  attributes : Attributes
  /-- The terms of all lines. -/
  terms : SortedSet Text
  /-- The lines in order. -/
  lines : List Line
deriving DecidableEq

/-- Occurrences by term and sessions by key. -/
structure Index where
  /-- The rule by which lines and queries are cut into terms. -/
  rule : TermRule
  /-- The occurrences of each term, in the order in which they were recorded. -/
  postings : SortedMap Text (List Posting)
  /-- The sessions. -/
  sessions : SortedMap SessionKey Session
deriving DecidableEq

namespace Index

/-- An index of nothing. -/
def empty (rule : TermRule) : Index := ⟨rule, .empty, .empty⟩

/-- The keys of the sessions, ascending. -/
def keys (x : Index) : List SessionKey := x.sessions.keys

/-- Whether a session is indexed. -/
def contains (x : Index) (k : SessionKey) : Bool := x.sessions.contains k

/-- The attributes of a session. -/
def attributes? (x : Index) (k : SessionKey) : Option Attributes :=
  (x.sessions.get? k).map Session.attributes

/-- The lines of a session. -/
def lines? (x : Index) (k : SessionKey) : Option (List Line) :=
  (x.sessions.get? k).map Session.lines

/-- The occurrences of a recorded term. -/
def occurrences (x : Index) (term : Text) : List Posting := (x.postings.get? term).getD []

/-- The occurrences of the one term that a text is made of. -/
def postings? (x : Index) (t : Text) : Option (List Posting) :=
  match x.rule.terms t with
  | [term] => x.postings.get? term
  | _ => none

end Index

end TranscriptSearch
