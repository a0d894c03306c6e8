import TranscriptSearch.CommandLine.Arguments
import TranscriptSearch.CommandLine.Log
import TranscriptSearch.Index.Search
import TranscriptSearch.Settings.Discovery
import TranscriptSearch.Settings.Render
import TranscriptSearch.Settings.Warning
import TranscriptSearch.Snapshot.Status

/-!
# Command line — commands

What each command does to the files and what it prints. A command works under the settings in
force in the working directory; when these cannot be loaded nothing else is done.

* `CommandLine.run`: what the program does when it is given some words.
* `CommandLine.settingsPaths`, `CommandLine.workPaths`: the paths that a run looks at.
-/

namespace TranscriptSearch

/-- What surrounds a run of the program. -/
structure Surroundings where
  /-- The files. -/
  files : FileTree
  /-- The home directory. -/
  home : Path
  /-- The working directory. -/
  cwd : Path
  /-- The clock. -/
  now : Moment
  /-- Whether there is a log at all. -/
  logs : Bool
  /-- The steps on the disk that the machine refuses. -/
  refused : Refusals

/-- What a run of the program leaves behind. -/
structure Effect where
  /-- The exit code. -/
  code : Nat
  /-- What is printed as the answer. -/
  answer : Output
  /-- What is printed about the work. -/
  remarks : Output
  /-- The files. -/
  files : FileTree

namespace CommandLine

/-- A run for one command, under the settings in force. -/
structure Workplace where
  /-- What surrounds it. -/
  surroundings : Surroundings
  /-- The settings in force. -/
  settings : Settings
  /-- The directory of the index, if it is not the one of the settings. -/
  directory : Option Path
  /-- How much is told. -/
  verbosity : Nat

namespace Workplace

/-- The directory of the index. -/
def indexDirectory (s : Workplace) : Path :=
  match s.directory with
  | some dir => Path.join s.surroundings.cwd dir
  | none     => s.settings.indexDirectory s.surroundings.cwd

/-- Where the index is kept. -/
def store (s : Workplace) : Store := ⟨s.indexDirectory, s.settings.fingerprint⟩

/-- The part of a log that is told. -/
@[macro_inline] def told (s : Workplace) (log : Log) : Output :=
  if s.surroundings.logs then log.output s.verbosity else []

/-- What a command that changes no files leaves behind. -/
def ends (s : Workplace) (code : Nat) (answer remarks : Output) : Effect :=
  ⟨code, answer, remarks, s.surroundings.files⟩

/-- A run that gives an answer. -/
def answers (s : Workplace) (answer remarks : Output) : Effect := s.ends 0 answer remarks

/-- A run that fails with a complaint. -/
def fails (s : Workplace) (remarks complaint : Output) : Effect :=
  s.ends 1 [] (remarks ++ Output.line (Output.ofString "error: " ++ complaint))

/-- A run that breaks down. -/
def breaksDown (s : Workplace) (answer remarks : Output) (fault : Breakdown) : Effect :=
  s.ends 101 answer (remarks ++ Output.line (Output.ofText fault.message))

/-! ### Answers -/

/-- Sessions, one on a line. -/
def sessionsText (keys : List SessionKey) : Output :=
  if keys.isEmpty then Output.line (Output.ofString "No matching sessions.")
  else Output.lines (keys.map fun k => Output.ofText k.text)

/-- Sessions as a value. -/
def sessionsJson (query : Text) (keys : List SessionKey) : Json :=
  .object [Json.member "query" (.string query),
    Json.member "sessions" (.array (keys.map SessionKey.toJson)),
    Json.member "total_matches" (.ofNat keys.length)]

/-- A text behind blanks up to a width. -/
def alignRight (width : Nat) (t : Text) : Text := List.replicate (width - t.length) ' ' ++ t

/-- Lines, each after its second. -/
def linesText (matched : List LineMatch) : Output :=
  let width := (matched.map fun m => m.label.length).foldl max 0
  Output.lines
    (matched.map fun m => Output.ofText (alignRight width m.label ++ [' ', ' '] ++ m.text))

/-- A line as a value. -/
def lineJson (m : LineMatch) : Json :=
  .object [Json.member "line" (.ofNat m.line), Json.member "timecode" (.ofBinary64 m.timecode),
    Json.member "label" (.string m.label), Json.member "text" (.string m.text)]

/-- Lines as a value. -/
def linesJson (k : SessionKey) (query : Text) (matched : List LineMatch) : Json :=
  .object [Json.member "session" k.toJson, Json.member "query" (.string query),
    Json.member "lines" (.array (matched.map lineJson))]

/-- An indented line. -/
def item (o : Output) : Output := Output.ofString "   " ++ o

/-- What is printed of a build that succeeded. -/
def summaryText (b : BuildSummary) : Output :=
  let verb := match b.kind with
    | .full        => "built"
    | .incremental => "updated"
  Output.line (Output.ofText ("Index ".toList ++ verb.toList ++ ": ".toList
      ++ Number.decimal b.report.indexed ++ " sessions indexed, ".toList
      ++ Number.decimal b.sessionCount ++ " in index (".toList) ++ [.elapsed, .words [')']])
    ++ if b.report.isClean then []
      else Output.lines (Output.ofString "" :: Output.ofString "Skipped:"
        :: b.report.skipped.map fun k => item (Output.ofText k.message))

/-! ### Commands -/

/-- What is said of a snapshot that cannot be used. -/
def unusable : SnapshotError → Output
  | .missing path =>
    Output.ofText ("no index at ".toList ++ path
      ++ "\nRun 'scribe index <transcripts.json>' to build one.".toList)
  | .stale stored expected =>
    Output.ofComplaint (SnapshotError.stale stored expected).complaint
      ++ Output.ofString "\nSettings changed since the last build; run 'scribe index' again."
  | cause => Output.ofComplaint (cause.complaint.after "failed to open index: ")

/-- A run that goes on with the snapshot of the store. -/
def withSnapshot (s : Workplace) (remarks : Output) (next : Output → Snapshot → Effect) : Effect :=
  let loaded := s.store.load s.surroundings.refused s.surroundings.files
  let remarks := remarks ++ s.told (Log.ofLoad s.store loaded)
  match loaded with
  | .ok x                     => next remarks x
  | .error (.error cause)     => s.fails remarks (unusable cause)
  | .error (.breakdown fault) => s.breaksDown [] remarks fault

/-- The transcripts of a file, or what is said of it. -/
def transcripts (s : Workplace) (file : Path) : Except Complaint (List Transcript) :=
  let unread (words : Text) : Complaint :=
    ⟨"failed to read ".toList ++ file ++ ": ".toList, some words⟩
  match s.surroundings.files.read (Path.join s.surroundings.cwd file) with
  | .error cause => .error (unread cause.words)
  | .ok octets =>
    match Text.decodeAll octets with
    | none => .error (unread notTextWords)
    | some t =>
      match Transcript.readText? t with
      | none =>
        .error ⟨"invalid transcript file ".toList ++ file ++ ": ".toList, some malformedWords⟩
      | some ts => .ok ts

/-- What is told of the transcripts of a file. -/
def loadedLog (file : Path) (ts : List Transcript) : Log :=
  [⟨.info, "loaded transcripts".toList, [("count", Log.count ts.length), ("file", Log.shown file)]⟩]

/-- The request that transcripts are indexed by. -/
def request (update : Bool) (ts : List Transcript) : Request :=
  if update then .ofChanged ts else .full ts

/-- To index the transcripts of a file. A service of its own does it, which has one request to
deal with. -/
def index (s : Workplace) (file : Path) (update : Bool) : Effect :=
  match s.transcripts file with
  | .error c => s.fails [] (Output.ofComplaint c)
  | .ok ts =>
    let idle := Service.start s.store s.settings.rule
    let asked := idle.withQueue fun q => if update then q.update ts else q.run ts
    let (done, files) :=
      Service.complete s.surroundings.refused s.surroundings.now (asked, s.surroundings.files)
    let remarks := s.told (loadedLog file ts
      ++ Log.ofBuild idle s.surroundings.refused s.surroundings.now s.surroundings.files
        (request update ts))
    let effect := match done.queue.answer? 0 with
      | some (.ok b) => s.answers (summaryText b) remarks
      | some (.error failure) =>
        s.fails remarks (Output.ofComplaint (failure.complaint.after "indexing failed: "))
      | none => s.answers [] remarks
    { effect with files := files }

/-- What is told of a query that is no proper query. Its fault is a quote, so it has a long form. -/
def queryLog (s : Workplace) (query : Text) : Log :=
  match s.settings.vocabulary.parseStrict query with
  | .ok _    => []
  | .error e =>
    e.explain?.toList.map fun t => ⟨.warn, "query recovered leniently: ".toList ++ t, []⟩

/-- To list the sessions that satisfy a query. -/
def search (s : Workplace) (query : Text) (json : Bool) : Effect :=
  s.withSnapshot (s.told (s.queryLog query)) fun remarks x =>
    let keys := x.index.matchingSessions s.settings.vocabulary query
    s.answers (if json then Output.line (Output.ofText (sessionsJson query keys).indented)
      else sessionsText keys) remarks

/-- To show the lines of a session that have a searched term. -/
def lines (s : Workplace) (session query : Text) (json : Bool) : Effect :=
  match SessionKey.parse? session with
  | none => s.fails [] (Output.ofText (SessionKey.parseError session))
  | some k =>
    s.withSnapshot [] fun remarks x =>
      if x.index.contains k then
        let matched := x.index.matchingLines k (s.settings.vocabulary.parse query)
        s.answers (if json then Output.line (Output.ofText (linesJson k query matched).indented)
          else linesText matched) remarks
      else s.fails remarks (Output.ofText ("session ".toList ++ k.text ++ " is not indexed".toList))

/-- What the status says of the settings files. -/
def filesText (s : Workplace) : Output :=
  let paths := Settings.discover s.surroundings.files s.surroundings.home s.surroundings.cwd
  Output.lines (Output.ofString "Config files:"
    :: (if paths.isEmpty then [item (Output.ofString "(none, using defaults)")]
      else paths.map fun p => item (Output.ofText p))
    ++ [[]])

/-- What the status says of the index. -/
def indexText (s : Workplace) (status : Status) : Output :=
  Output.lines [Output.ofString "Index:", item (Output.ofText s.store.path),
    item (Output.ofText ("status: ".toList ++ status.description))]

/-- What the status says of a snapshot that can be used. -/
def snapshotText (x : Snapshot) : Output :=
  Output.lines [item (Output.ofText ("sessions: ".toList ++ Number.decimal x.sessionCount)),
    item (Output.ofString "built: " ++ [.moment x.builtAt])]

/-- What the status says of the settings. -/
def warningsText (s : Workplace) : Output :=
  if s.settings.warnings.isEmpty then []
  else Output.lines ([] :: Output.ofString "Warnings:"
    :: s.settings.warnings.map fun w => item (Output.ofText w.message))

/-- To show the settings files and the status of the index. A snapshot that can be used is
loaded once to find that out and once to be shown. -/
def status (s : Workplace) : Effect :=
  let loaded := s.store.load s.surroundings.refused s.surroundings.files
  let log := s.told (Log.ofLoad s.store loaded)
  match loaded with
  | .error (.breakdown fault) => s.breaksDown s.filesText log fault
  | .error (.error cause) =>
    s.answers (s.filesText ++ s.indexText cause.status ++ s.warningsText) log
  | .ok x =>
    s.answers (s.filesText ++ s.indexText .current ++ snapshotText x ++ s.warningsText) (log ++ log)

/-- To show the settings in force. -/
def config (s : Workplace) : Effect := s.answers (Output.ofText s.settings.render) []

/-- What a command does. -/
def perform (s : Workplace) : Command → Effect
  | .index file update        => s.index file update
  | .search query json        => s.search query json
  | .lines session query json => s.lines session query json
  | .status                   => s.status
  | .config                   => s.config

end Workplace

/-- How the program is used. -/
def usage : Text :=
  "Usage: scribe [--index DIR] [-v]... <index|search|lines|status|config> ...".toList

/-- What an invocation does. -/
def invoke (e : Surroundings) (i : Invocation) : Effect :=
  match Settings.load e.files e.home e.cwd with
  | .error failure =>
    ⟨1, [], Output.line (Output.ofComplaint
      (failure.complaint.after "error: failed to load configuration: ")), e.files⟩
  | .ok settings => Workplace.perform ⟨e, settings, i.directory, i.verbosity⟩ i.command

/-- What the program does when it is given some words. -/
def run (e : Surroundings) (words : List Text) : Effect :=
  match Invocation.parse words with
  | .ok i           => invoke e i
  | .error .help    => ⟨0, Output.line (Output.ofText usage), [], e.files⟩
  | .error .misuse  => ⟨2, [], Output.line (Output.ofText usage), e.files⟩

/-- The paths of all settings files that can count for a run. -/
def settingsPaths (home cwd : Path) : List Path :=
  ((Path.ancestors cwd).map fun dir => Path.join dir Settings.fileName)
    ++ [Settings.globalPath home]

/-- The paths that a command looks at or writes to, besides those of the settings files. -/
def workPaths (e : Surroundings) (words : List Text) : List Path :=
  match Invocation.parse words, Settings.load e.files e.home e.cwd with
  | .ok i, .ok settings =>
    let store := Workplace.store ⟨e, settings, i.directory, i.verbosity⟩
    let own := match i.command with
      | .index file _ => [Path.join e.cwd file]
      | _             => []
    [store.path, store.draftPath] ++ own
  | _, _ => []

end CommandLine

end TranscriptSearch
