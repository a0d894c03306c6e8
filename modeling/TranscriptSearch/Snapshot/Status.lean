import TranscriptSearch.Snapshot.Store

/-!
# Snapshot — the status of a store

* `Store.status`: how the snapshot of a store stands to the settings in force.
-/

namespace TranscriptSearch

/-- How the snapshot of a store stands to the settings in force. -/
inductive Status where
  /-- It can be used. -/
  | current
  /-- It was written for other settings or in another format. -/
  | stale
  /-- It cannot be read. -/
  | corrupt
  /-- There is none. -/
  | missing
deriving DecidableEq, Repr

namespace Status

/-- The status in words. -/
def description : Status → Text
  | .current => "current".toList
  | .stale   => "stale (settings or format changed)".toList
  | .corrupt => "corrupt".toList
  | .missing => "missing".toList

/-- Whether nothing can be searched before the index is built. -/
def needsRebuild (s : Status) : Bool := s != .current

end Status

/-- The status that a failed load tells of. -/
def SnapshotError.status : SnapshotError → Status
  | .missing _                              => .missing
  | .stale _ _ | .unsupportedVersion _      => .stale
  | .refused _ _ | .malformed | .inconsistent _ => .corrupt

/-- The status of a store, if reading it does not break down. -/
def Store.status (s : Store) (refused : Refusals) (files : FileTree) : Except Breakdown Status :=
  match s.load refused files with
  | .ok _ => .ok .current
  | .error (.error cause) => .ok cause.status
  | .error (.breakdown fault) => .error fault

end TranscriptSearch
