import TranscriptSearch.Service.Queue
import TranscriptSearch.Snapshot.Store

/-!
# Service — building and serving snapshots

A service keeps the current snapshot in memory and on the disk. A build works on a request,
writes the new snapshot, and only then lets it take the place of the current one. When nothing is
in memory the snapshot on the disk is tried; a failed try is not repeated, until a build succeeds.

* `Service.read`: the current snapshot.
* `Service.look`, `Service.fetch`, `Service.settle`, `Service.leave`: the steps of a read, between
  which others act.
* `Service.construct`: the snapshot that a request leads to, written to the disk.
* `Service.build`, `Service.publish`: the two halves of a build. Nobody is told of it in either.
-/

namespace TranscriptSearch

/-- One who asked for the current snapshot when there was none in memory. -/
inductive Reader where
  /-- It is about to try the disk. -/
  | looking
  /-- It tried the disk. -/
  | holding (found : Except LoadFailure Snapshot)
  /-- It found no snapshot there, and is about to see whether there is one in memory by now. -/
  | leaving

/-- A current snapshot, and a queue of requests for others. -/
structure Service where
  /-- Where snapshots are written. -/
  store : Store
  /-- The rule for the terms of a new index. -/
  rule : TermRule
  /-- The snapshot in memory. -/
  current : Option Snapshot
  /-- Whether the disk is no longer tried. -/
  hasTried : Bool
  /-- Those who are in the middle of a read. -/
  readers : List Reader
  /-- The snapshot that is written but not yet current, and what will be told of it. -/
  written : Option (Snapshot × BuildSummary)
  /-- The requests. -/
  queue : Queue

/-- What a service does at a moment. -/
inductive Lifecycle where
  /-- There is nothing in memory and nothing to do. -/
  | empty
  /-- A build is under way or waits. -/
  | building
  /-- There is a snapshot and nothing to do. -/
  | ready
deriving DecidableEq, Repr

namespace Service

/-- A service that has done nothing yet. -/
def start (store : Store) (rule : TermRule) : Service :=
  ⟨store, rule, none, false, [], none, .empty⟩

/-- What the service does. -/
def lifecycle (s : Service) : Lifecycle :=
  if !s.queue.isIdle then .building else if s.current.isSome then .ready else .empty

/-! ### Reading -/

/-- The service after the current snapshot was asked for, and that snapshot. -/
def read (s : Service) (refused : Refusals) (files : FileTree) :
    Service × Except Breakdown (Option Snapshot) :=
  match s.current with
  | some x => (s, .ok (some x))
  | none =>
    if s.hasTried then (s, .ok none)
    else
      match s.store.load refused files with
      | .ok x                     => ({ s with current := some x }, .ok (some x))
      | .error (.error _)         => ({ s with hasTried := true }, .ok none)
      | .error (.breakdown fault) => (s, .error fault)

/-- The service after a reader found nothing in memory and turned to the disk. -/
def look (s : Service) : Service :=
  if s.current.isNone && !s.hasTried then { s with readers := s.readers ++ [.looking] } else s

/-- The service after the `i`-th reader tried the disk. -/
def fetch (s : Service) (refused : Refusals) (files : FileTree) (i : Nat) : Service :=
  match s.readers[i]? with
  | some .looking => { s with readers := s.readers.set i (.holding (s.store.load refused files)) }
  | _             => s

/-- The service after the `i`-th reader came back from the disk. What is current stays current. The
read ends, unless an error was found: then the disk is given up at first. -/
def settle (s : Service) (i : Nat) : Service :=
  match s.readers[i]? with
  | some (.holding (.ok x)) =>
    { s with current := some (s.current.getD x), readers := s.readers.eraseIdx i }
  | some (.holding (.error (.error _))) =>
    { s with hasTried := true, readers := s.readers.set i .leaving }
  | some (.holding (.error (.breakdown _))) => { s with readers := s.readers.eraseIdx i }
  | _ => s

/-- The service after the `i`-th reader looked in the memory once more, which ends its read. -/
def leave (s : Service) (i : Nat) : Service :=
  match s.readers[i]? with
  | some .leaving => { s with readers := s.readers.eraseIdx i }
  | _             => s

/-! ### Building -/

/-- The index that changed transcripts are merged into. Only where there is no snapshot at all
it is empty. -/
def base (s : Service) (refused : Refusals) (files : FileTree) : Except LoadFailure Index :=
  match s.current with
  | some x => .ok x.index
  | none =>
    match s.store.load refused files with
    | .ok x                         => .ok x.index
    | .error (.error (.missing _))  => .ok (.empty s.rule)
    | .error failure                => .error failure

/-- The index that a request leads to. -/
def newIndex (s : Service) (refused : Refusals) (files : FileTree) :
    Request → Except LoadFailure Index
  | .full ts       => .ok (.build s.rule ts)
  | .incremental m => (s.base refused files).map fun x => x.merge m.values

/-- The files after a build of a request, and the snapshot that was written. -/
def construct (s : Service) (refused : Refusals) (now : Moment) (files : FileTree) (r : Request) :
    FileTree × Except BuildFailure Snapshot :=
  match s.newIndex refused files r with
  | .error failure => (files, .error failure.buildFailure)
  | .ok x =>
    match s.store.save refused files ⟨x, now, s.store.fingerprint⟩ with
    | (files, none)       => (files, .ok ⟨x, now, s.store.fingerprint⟩)
    | (files, some cause) => (files, .error (.persistence cause))

/-- The service and the files after the worker wrote the snapshot of its request. A failure
ends the build here. -/
def build (s : Service) (refused : Refusals) (now : Moment) (files : FileTree) :
    Service × FileTree :=
  match s.queue.stage, s.written with
  | .building job, none =>
    match s.construct refused now files job.request with
    | (files, .ok x) => ({ s with written := some (x, job.request.summary x) }, files)
    | (files, .error failure) => ({ s with queue := s.queue.finish (.error failure) }, files)
  | _, _ => (s, files)

/-- The service after the written snapshot became current, which ends the build. -/
def publish (s : Service) : Service :=
  match s.written with
  | none => s
  | some (x, summary) =>
    { s with
      current := some x
      hasTried := true
      written := none
      queue := s.queue.finish (.ok summary) }

end Service

end TranscriptSearch
