import TranscriptSearch.CommandLine.Run
import TranscriptSearch.Proofs.Service.Reachable

/-!
# Command line — one run of the program

A run that indexes transcripts is one build by a service of its own; it succeeds when the build
does, and leaves behind the files of the build.

* `CommandLine.Site`: the settings in force and the directory of the index.
* `Site.Asks`: some words ask for a command at a site.
* `Service.complete_asked`: what a service makes of its only request.
* `Workplace.index_of_error`, `Workplace.index_of_ok`: what an indexing run leaves behind.
-/

namespace TranscriptSearch

namespace Service

/-- A service that has done nothing yet and was asked for a build. -/
def asked (store : Store) (rule : TermRule) (r : Request) (join : Request → Request) : Service :=
  (start store rule).withQueue fun q => q.enqueue r join

/-- The service after its worker took the request. -/
def building (store : Store) (rule : TermRule) (r : Request) : Service :=
  { start store rule with
    queue := { Queue.empty with handles := 1, stage := .building ⟨r, [0]⟩ } }

/-- **What a service makes of its only request** is what the build makes of it. -/
theorem complete_asked (store : Store) (rule : TermRule) (r : Request) (join : Request → Request)
    (refused : Refusals) (now : Moment) (files : FileTree) :
    (complete refused now (asked store rule r join, files)).2 =
      ((start store rule).construct refused now files r).1 ∧
    (complete refused now (asked store rule r join, files)).1.queue.answer? 0 =
      some (((start store rule).construct refused now files r).2.map r.summary) := by
  have hcomplete : complete refused now (asked store rule r join, files) =
      ((((building store rule r).build refused now files).1.publish).withQueue fun q =>
        q.collect.deliver.rest, ((building store rule r).build refused now files).2) := rfl
  rw [hcomplete]
  obtain ⟨-, hturn⟩ | ⟨job, hjob, -, files', hbuild⟩ :=
    (building store rule r).of_build refused now files
  · cases hturn rfl
  · obtain rfl := Option.some.inj hjob
    obtain ⟨x, hbuilt, hbuild⟩ | ⟨failure, hbuilt, hbuild⟩ := hbuild
    · rw [hbuild, show (start store rule).construct refused now files r = _ from hbuilt]
      exact ⟨rfl, rfl⟩
    · rw [hbuild, show (start store rule).construct refused now files r = _ from hbuilt]
      exact ⟨rfl, rfl⟩

end Service

namespace CommandLine

/-- The settings in force and the directory of the index. -/
structure Site where
  /-- The settings in force. -/
  settings : Settings
  /-- The directory of the index. -/
  directory : Path

namespace Site

/-- Where the index of a site is kept. -/
def store (site : Site) : Store := ⟨site.directory, site.settings.fingerprint⟩

/-- Some words ask for a command at a site. -/
structure Asks (site : Site) (e : Surroundings) (words : List Text) (c : Command) : Prop where
  /-- The settings in force are those of the site. -/
  settings : Settings.load e.files e.home e.cwd = .ok site.settings
  /-- The words ask for the command, and lead to the directory of the site. -/
  words : ∃ i, Invocation.parse words = .ok i ∧ i.command = c ∧
    Workplace.indexDirectory ⟨e, site.settings, i.directory, i.verbosity⟩ = site.directory

/-- A run at a site does what the command does there. -/
theorem Asks.run_eq {site : Site} {e : Surroundings} {words : List Text} {c : Command}
    (h : site.Asks e words c) :
    ∃ w : Workplace, w.surroundings = e ∧ w.settings = site.settings ∧ w.store = site.store ∧
      run e words = w.perform c := by
  obtain ⟨i, hparse, rfl, hdirectory⟩ := h.words
  refine ⟨⟨e, site.settings, i.directory, i.verbosity⟩, rfl, rfl, ?_, ?_⟩
  · rw [Workplace.store, hdirectory]
    rfl
  · simp only [run, hparse, invoke, h.settings]

end Site

namespace Workplace

variable {w : Workplace} {file : Path}

/-- Transcripts that cannot be read are not indexed. -/
theorem index_of_error (update : Bool) {c : Complaint} (h : w.transcripts file = .error c) :
    (w.index file update).code = 1 ∧ (w.index file update).files = w.surroundings.files := by
  rw [index, h]
  exact ⟨rfl, rfl⟩

/-- The build of an indexing run. -/
def built (w : Workplace) (update : Bool) (ts : List Transcript) :
    FileTree × Except BuildFailure Snapshot :=
  (Service.start w.store w.settings.rule).construct w.surroundings.refused w.surroundings.now
    w.surroundings.files (request update ts)

/-- **An indexing run is its build.**  It succeeds when the build does, and leaves its files. -/
theorem index_of_ok (update : Bool) {ts : List Transcript} (h : w.transcripts file = .ok ts) :
    (w.index file update).files = (w.built update ts).1 ∧
    (w.index file update).code = if (w.built update ts).2.isOk then 0 else 1 := by
  obtain ⟨join, hasked⟩ : ∃ join, ((Service.start w.store w.settings.rule).withQueue fun q =>
      if update then q.update ts else q.run ts) =
        Service.asked w.store w.settings.rule (request update ts) join := by
    cases update with
    | true => exact ⟨_, rfl⟩
    | false => exact ⟨_, rfl⟩
  obtain ⟨hfiles, hanswer⟩ := Service.complete_asked w.store w.settings.rule (request update ts)
    join w.surroundings.refused w.surroundings.now w.surroundings.files
  rw [index, h]
  simp only [hasked, hfiles, hanswer]
  refine ⟨rfl, ?_⟩
  rw [built]
  cases ((Service.start w.store w.settings.rule).construct w.surroundings.refused
    w.surroundings.now w.surroundings.files (request update ts)).2 with
  | ok x => rfl
  | error failure => rfl

/-! ### Searching -/

/-- How the sessions that a search finds are printed. -/
def sessionsOutput (query : Text) (json : Bool) (keys : List SessionKey) : Output :=
  if json then Output.line (Output.ofText (sessionsJson query keys).indented)
  else sessionsText keys

/-- A run that searches a snapshot that can be read answers with the sessions that satisfy the
query, and leaves the files alone. -/
theorem search_of_load {x : Snapshot} (query : Text) (json : Bool)
    (h : w.store.load w.surroundings.refused w.surroundings.files = .ok x) :
    (w.search query json).code = 0 ∧ (w.search query json).files = w.surroundings.files ∧
    (w.search query json).answer =
      sessionsOutput query json (x.index.matchingSessions w.settings.vocabulary query) := by
  rw [search, withSnapshot, h]
  exact ⟨rfl, rfl, rfl⟩

/-- Sessions are printed one on a line; that there are none is said. -/
theorem text_sessionsText (ms : Nat) (keys : List SessionKey) :
    (sessionsText keys).text ms =
      if keys = [] then "No matching sessions.\n".toList
      else keys.flatMap fun k => k.text ++ ['\n'] := by
  rw [sessionsText]
  cases keys with
  | nil => rfl
  | cons k keys =>
      rw [if_neg (by simp), if_neg (by simp), Output.text, Output.lines, List.flatMap_map,
        List.flatMap_assoc]
      refine List.flatMap_congr fun k _ => ?_
      simp [Output.line, Output.ofText, Piece.text]

end Workplace

/-- What is asked for by words after the name of the search. -/
theorem parse_search {words : List Text} {query : Text}
    (h : scan (levelOf "search".toList) .nothing words =
      .ok { Seen.nothing with plain := [query] }) :
    Invocation.parse ("search".toList :: words) = .ok ⟨.search query false, none, 0⟩ := by
  have known : Invocation.parse ("search".toList :: words) =
      scan (levelOf "search".toList) .nothing words >>= fun after => do
        return ⟨← commandOf "search".toList after, after.directory.or none,
          (after.verbosity.or none).getD 0⟩ := rfl
  rw [known, h]
  rfl

/-- Every query can be asked, after two hyphens. -/
theorem parse_search_escaped (query : Text) :
    Invocation.parse ["search".toList, "--".toList, query] = .ok ⟨.search query false, none, 0⟩ :=
  parse_search rfl

/-- A query that does not look like an option can be asked without them. -/
theorem parse_search_plain {query : Text} (h : shape query = .plain) :
    Invocation.parse ["search".toList, query] = .ok ⟨.search query false, none, 0⟩ := by
  refine parse_search ?_
  rw [scan, h]
  rfl

end CommandLine

end TranscriptSearch
