import TranscriptSearch.Service.Request
import TranscriptSearch.Snapshot.Error

/-!
# Service — outcomes of builds

* `Outcome`: what is told to those who wait for a build.
* `BuildFailure.complaint`: what is said of a build that failed.
-/

namespace TranscriptSearch

/-- What is told of a build that succeeded. -/
structure BuildSummary where
  /-- How the build treated the index before it. -/
  kind : BuildKind
  /-- The number of sessions in the new snapshot. -/
  sessionCount : Nat
  /-- When the snapshot was built. -/
  builtAt : Moment
  /-- Which transcripts of the request were indexed. -/
  report : Report
deriving DecidableEq, Repr

/-- Why a build gave no new snapshot. -/
inductive BuildFailure where
  /-- The snapshot to start from could not be read, or the new one could not be written. -/
  | persistence (cause : SnapshotError)
  /-- The build stopped without an answer of its own. -/
  | breakdown (fault : Breakdown)
  /-- The service was shut down before the request was made. -/
  | cancelled
deriving DecidableEq, Repr

/-- What is said of it. -/
def BuildFailure.complaint : BuildFailure → Complaint
  | .persistence cause => cause.complaint.after "failed to persist index: "
  | .breakdown fault => .ofText ("index build panicked: ".toList ++ fault.message)
  | .cancelled => .ofText "indexing service shut down before the build ran".toList

/-- What a failed load is to a build. -/
def LoadFailure.buildFailure : LoadFailure → BuildFailure
  | .error cause => .persistence cause
  | .breakdown fault => .breakdown fault

/-- The end of a build. -/
abbrev Outcome := Except BuildFailure BuildSummary

/-- The summary of a build of a request that gave a snapshot. -/
def Request.summary (r : Request) (x : Snapshot) : BuildSummary where
  kind := r.kind
  sessionCount := x.sessionCount
  builtAt := x.builtAt
  report := .ofBatch r.batch

end TranscriptSearch
