import TranscriptSearch.Complaint
import TranscriptSearch.Snapshot.Record

/-!
# Snapshot — what can go wrong

* `SnapshotError`: why no snapshot is there to be had, or why one was not written.
* `SnapshotError.complaint`: what is said of it.
-/

namespace TranscriptSearch

open Number

/-- Why no snapshot was read or written. -/
inductive SnapshotError where
  /-- There is no snapshot. -/
  | missing (path : Path)
  /-- The machine did not do something at a path. -/
  | refused (path : Path) (cause : FileError)
  /-- The octets are not those of a snapshot. -/
  | malformed
  /-- The parts of the snapshot disagree. -/
  | inconsistent (fault : Inconsistency)
  /-- The snapshot has another version of the format. -/
  | unsupportedVersion (found : UInt32)
  /-- The snapshot was built for other settings. -/
  | stale (stored expected : Text)
deriving DecidableEq, Repr

/-- What is said of it. -/
def SnapshotError.complaint : SnapshotError → Complaint
  | .missing path => .ofText ("no index at ".toList ++ path)
  | .refused path cause => ⟨"I/O error on ".toList ++ path ++ ": ".toList, some cause.words⟩
  | .malformed => ⟨"failed to decode index: ".toList, some malformedWords⟩
  | .inconsistent fault => .ofText ("inconsistent index: ".toList ++ fault.message)
  | .unsupportedVersion found =>
    .ofText ("unsupported index format version ".toList ++ decimal found.toNat
      ++ " (expected ".toList ++ decimal SnapshotRecord.currentVersion.toNat ++ ")".toList)
  | .stale stored expected =>
    .ofText ("index is stale: built with config ".toList ++ stored
      ++ ", current config is ".toList ++ expected)

/-- How reading a snapshot can end without one. -/
inductive LoadFailure where
  /-- There is an answer, and it says why. -/
  | error (cause : SnapshotError)
  /-- There is no answer: the reader stopped. -/
  | breakdown (fault : Breakdown)
deriving DecidableEq, Repr

/-- What a fault of a record is to one who wants the snapshot. -/
def RecordFault.loadFailure : RecordFault → LoadFailure
  | .malformed => .error .malformed
  | .breakdown fault => .breakdown fault

end TranscriptSearch
