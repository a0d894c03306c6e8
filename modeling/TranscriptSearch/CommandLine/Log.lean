import TranscriptSearch.CommandLine.Output
import TranscriptSearch.Service.Run

/-!
# Command line — the log

What is told of the work while it is done. An entry is told when its level is at least as grave
as the one that was asked for.

* `Log.ofLoad`, `Log.ofSave`, `Log.ofBuild`: what is told of a load, a save and a build.
* `Log.output`: the entries that are told, one on a line.
-/

namespace TranscriptSearch

open Number

/-- How grave an entry is. -/
inductive Gravity where
  /-- Something failed. -/
  | error
  /-- Something is not as it should be. -/
  | warn
  /-- Something was done. -/
  | info
  /-- Something that only those who look for a fault want to know. -/
  | debug
deriving DecidableEq, Repr

namespace Gravity

/-- The name of a level. -/
def name : Gravity → Text
  | .error => "ERROR".toList
  | .warn  => "WARN".toList
  | .info  => "INFO".toList
  | .debug => "DEBUG".toList

/-- The least verbosity at which a level is told. -/
def verbosity : Gravity → Nat
  | .error | .warn => 0
  | .info          => 1
  | .debug         => 2

end Gravity

/-- Something that is told. -/
structure LogEntry where
  /-- How grave it is. -/
  gravity : Gravity
  /-- What it is. -/
  message : Text
  /-- What else there is to know. -/
  fields : List (String × Output)

/-- Things that are told, in order. -/
abbrev Log := List LogEntry

namespace LogEntry

/-- A character of a message; one that a terminal could obey is written out. -/
def escapedChar (c : Char) : Text :=
  if c = '\x1b' then "\\x1b".toList
  else if c = '\x07' then "\\x07".toList
  else if c = '\x08' then "\\x08".toList
  else if c = '\x0c' then "\\x0c".toList
  else if c = '\x7f' then "\\x7f".toList
  else if 0x80 ≤ c.toNat ∧ c.toNat ≤ 0x9f then
    ['\\', 'u', '\x7b'] ++ hexadecimal c.toNat ++ ['\x7d']
  else [c]

/-- An entry as it is printed. -/
def output (e : LogEntry) : Output :=
  .words (e.gravity.name ++ [' '] ++ e.message.flatMap escapedChar)
    :: e.fields.flatMap fun f => .words ([' '] ++ f.1.toList ++ ['=']) :: f.2

end LogEntry

namespace Log

/-- A path or another text. -/
def shown (t : Text) : Output := .ofText t

/-- A number. -/
def count (n : Nat) : Output := .ofText (decimal n)

/-- The entries that are told at a verbosity, one on a line. -/
def output (verbosity : Nat) (log : Log) : Output :=
  .lines ((log.filter fun e => e.gravity.verbosity ≤ verbosity).map LogEntry.output)

/-- What is told of a load. -/
def ofLoad (s : Store) : Except LoadFailure Snapshot → Log
  | .ok x =>
    [⟨.debug, "loaded index snapshot".toList,
      [("path", shown s.path), ("sessions", count x.sessionCount)]⟩]
  | .error _ => []

/-- What is told of the removal of a draft after a failed step. -/
def ofCleanUp (s : Store) (refused : Refusals) (failed : DiskStep) (files : FileTree) : Log :=
  if failed = .makeDirectory then []
  else
    match s.perform refused [] [.cleanUp] files with
    | (_, none) | (_, some (_, .notFound)) => []
    | (_, some (_, cause)) =>
      [⟨.debug, "could not remove temp snapshot".toList,
        [("path", shown s.draftPath), ("error", shown cause.words)]⟩]

/-- What is told of a save. -/
def ofSave (s : Store) (refused : Refusals) (files : FileTree) (x : Snapshot) : Log :=
  match s.perform refused x.octets Store.saveSteps files with
  | (_, none) =>
    [⟨.debug, "saved index snapshot".toList,
      [("path", shown s.path), ("bytes", count x.octets.length),
        ("sessions", count x.sessionCount)]⟩]
  | (files, some (step, cause)) =>
    ofCleanUp s refused step files ++
      [⟨.error, "failed to persist index; keeping previous snapshot".toList,
        [("error", .ofComplaint (SnapshotError.refused (s.place step) cause).complaint)]⟩]

/-- What is told of the snapshot that changed transcripts are merged into. -/
def ofBase (s : Service) (refused : Refusals) (files : FileTree) : Log :=
  if s.current.isSome then []
  else
    match s.store.load refused files with
    | .error (.error (.missing _))  => []
    | .error (.error cause) =>
      [⟨.error, "cannot update persisted index; run a full build".toList,
        [("error", .ofComplaint cause.complaint)]⟩]
    | .error (.breakdown fault) =>
      [⟨.error, "index build panicked".toList, [("panic", shown fault.message)]⟩]
    | loaded => ofLoad s.store loaded

/-- What is told of the transcripts that are not indexed. -/
def ofReport (r : Report) : Log :=
  r.skipped.map fun k => ⟨.warn, "transcript skipped".toList, [("skipped", shown k.message)]⟩

/-- The name of a kind of build. -/
def kindName : BuildKind → Text
  | .full        => "Full".toList
  | .incremental => "Incremental".toList

/-- What is told of a build that succeeded. -/
def ofSummary (b : BuildSummary) : Log :=
  [⟨.info, "index build complete".toList,
    [("kind", shown (kindName b.kind)), ("sessions", count b.sessionCount),
      ("indexed", count b.report.indexed), ("skipped", count b.report.skipped.length),
      ("elapsed_ms", [.milliseconds])]⟩]

/-- What is told of a build of a request. -/
def ofBuild (s : Service) (refused : Refusals) (now : Moment) (files : FileTree) (r : Request) :
    Log :=
  [⟨.debug, "index build started".toList, [("transcripts", count r.size)]⟩]
    ++ (match r with
      | .full _        => []
      | .incremental _ => ofBase s refused files)
    ++ match s.newIndex refused files r with
      | .error _ => []
      | .ok x =>
        ofReport (.ofBatch r.batch)
          ++ ofSave s.store refused files ⟨x, now, s.store.fingerprint⟩
          ++ match s.construct refused now files r with
            | (_, .ok y)    => ofSummary (r.summary y)
            | (_, .error _) => []

end Log

end TranscriptSearch
