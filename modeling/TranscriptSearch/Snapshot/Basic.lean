import TranscriptSearch.Index.Basic
import TranscriptSearch.Moment

/-!
# Snapshots

An index that was built at some moment for some settings. A snapshot never changes; another
build gives another snapshot.
-/

namespace TranscriptSearch

/-- A built index. -/
structure Snapshot where
  /-- The index. -/
  index : Index
  /-- When it was built. -/
  builtAt : Moment
  /-- The fingerprint of the settings that it was built for. -/
  fingerprint : Text
deriving DecidableEq

namespace Snapshot

/-- The number of indexed sessions. -/
def sessionCount (s : Snapshot) : Nat := s.index.sessions.size

/-- The snapshot as it is when it was written and read again. -/
def truncated (s : Snapshot) : Snapshot := { s with builtAt := s.builtAt.truncated }

end Snapshot

end TranscriptSearch
