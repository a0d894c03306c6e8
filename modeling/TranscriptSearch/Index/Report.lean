import TranscriptSearch.Transcript.Basic

/-!
# Index — the transcripts of a batch

Of the transcripts of a batch with one key the last one stands, and it is indexed when all its
timecodes are valid. Which transcripts of a batch are indexed is decided by the batch alone,
whatever the index holds.

* `Batch.accepted`: the transcripts that are indexed.
* `Report.ofBatch`: what is said of each transcript that is not.
-/

namespace TranscriptSearch

open Number

/-- Why a transcript is not indexed. -/
inductive Skipped where
  /-- A line has a timecode that is not valid. -/
  | invalidTimecode (session : SessionKey) (line : Nat) (timecode : Timecode)
  /-- A later transcript of the batch has the same key. -/
  | duplicateSession (session : SessionKey)
deriving DecidableEq, Repr

/-- The reason in words. -/
def Skipped.message : Skipped → Text
  | .invalidTimecode session line timecode =>
    "session ".toList ++ session.text ++ ": line ".toList ++ decimal line
      ++ " has invalid timecode ".toList ++ timecode.positional
  | .duplicateSession session =>
    "session ".toList ++ session.text ++ " supplied more than once; using the last copy".toList

namespace Batch

/-- Whether no transcript of a batch has a key. -/
def lacks (k : SessionKey) (batch : List Transcript) : Bool := batch.all fun t => t.key != k

/-- The last transcript of each key, in the order of the batch. -/
def lastCopies : List Transcript → List Transcript
  | [] => []
  | t :: rest => if lacks t.key rest then t :: lastCopies rest else lastCopies rest

/-- The key of each transcript that a later one overrides, in the order of the batch. -/
def overridden : List Transcript → List SessionKey
  | [] => []
  | t :: rest => if lacks t.key rest then overridden rest else t.key :: overridden rest

/-- The first line whose timecode is not valid, and its timecode. -/
def invalidLine? (lines : List Line) : Option (Nat × Timecode) :=
  (lines.zipIdx.find? fun p => !Timecode.isValid p.1.timecode).map fun p => (p.2, p.1.timecode)

/-- Whether all timecodes of a transcript are valid. -/
def isValid (t : Transcript) : Bool := t.lines.all fun l => Timecode.isValid l.timecode

/-- Why a transcript that stands is not indexed. -/
def rejection? (t : Transcript) : Option Skipped :=
  (invalidLine? t.lines).map fun p => .invalidTimecode t.key p.1 p.2

/-- The transcripts of a batch that are indexed, in the order of the batch. -/
def accepted (batch : List Transcript) : List Transcript := (lastCopies batch).filter isValid

end Batch

/-- How many transcripts of a batch were indexed, and why the others were not. -/
structure Report where
  /-- The number of indexed transcripts. -/
  indexed : Nat
  /-- The others: first those that a later one overrides, then those with invalid timecodes. -/
  skipped : List Skipped
deriving DecidableEq, Repr

namespace Report

/-- The report on a batch. -/
def ofBatch (batch : List Transcript) : Report where
  indexed := (Batch.accepted batch).length
  skipped := (Batch.overridden batch).map .duplicateSession
    ++ (Batch.lastCopies batch).filterMap Batch.rejection?

/-- Whether every transcript was indexed. -/
def isClean (r : Report) : Bool := r.skipped.isEmpty

end Report

end TranscriptSearch
