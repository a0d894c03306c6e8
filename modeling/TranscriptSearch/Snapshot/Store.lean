import TranscriptSearch.Snapshot.Error

/-!
# Snapshot — the store

A store keeps one snapshot in a directory. A snapshot is written to a draft beside the snapshot
file, and the draft then takes the place of the file, so that the file is at all times a whole
snapshot or none. Any step on the disk can be refused by the machine.

* `Store.load`: the snapshot of a store, if it was built for the store's settings.
* `Store.save`: the files with a new snapshot in the store.
* `Store.saveSteps`: the steps of a save; a save that is cut short has done the first of them.
-/

namespace TranscriptSearch

/-- What is asked of the disk. -/
inductive DiskStep where
  /-- To read the snapshot file. -/
  | read
  /-- To make the directory. -/
  | makeDirectory
  /-- To make an empty draft. -/
  | create
  /-- To fill the draft. -/
  | write
  /-- To keep the draft across a loss of power. -/
  | sync
  /-- To put the draft in the place of the snapshot file. -/
  | rename
  /-- To remove the draft after a failure. -/
  | cleanUp
deriving DecidableEq, Repr

/-- The steps that the machine refuses for reasons of its own. -/
abbrev Refusals := DiskStep → Bool

/-- No refusals. -/
def Refusals.none : Refusals := fun _ => false

/-- A directory with a snapshot for some settings. -/
structure Store where
  /-- The directory. -/
  directory : Path
  /-- The fingerprint that a snapshot must carry. -/
  fingerprint : Text
deriving DecidableEq, Repr

namespace Store

/-- The path of the snapshot file. -/
def path (s : Store) : Path := Path.join s.directory "snapshot.json".toList

/-- The path of the draft. -/
def draftPath (s : Store) : Path := Path.join s.directory "snapshot.json.tmp".toList

/-- Whether there is a snapshot file, of whatever content. -/
def holdsFile (s : Store) (files : FileTree) : Bool := files.isFile s.path

/-! ### Loading -/

/-- The snapshot of a record that was written for the store's settings and agrees with itself. -/
def accept (s : Store) (r : SnapshotRecord) : Except SnapshotError Snapshot :=
  if r.version ≠ SnapshotRecord.currentVersion then .error (.unsupportedVersion r.version)
  else if r.fingerprint ≠ s.fingerprint then .error (.stale r.fingerprint s.fingerprint)
  else
    match r.content.index with
    | .error fault => .error (.inconsistent fault)
    | .ok x =>
      if x.sessions.size = r.sessionCount then .ok ⟨x, r.builtAt, r.fingerprint⟩
      else .error (.inconsistent (.sessionCount r.sessionCount x.sessions.size))

/-- The snapshot in the octets of a snapshot file. -/
def ofOctets (s : Store) (octets : List UInt8) : Except LoadFailure Snapshot :=
  match SnapshotRecord.read octets with
  | .error fault => .error fault.loadFailure
  | .ok r => (s.accept r).mapError .error

/-- The octets of the snapshot file. -/
def read (s : Store) (refused : Refusals) (files : FileTree) : Except FileError (List UInt8) :=
  if refused .read then .error .refused else files.read s.path

/-- The snapshot of the store. -/
def load (s : Store) (refused : Refusals) (files : FileTree) : Except LoadFailure Snapshot :=
  match s.read refused files with
  | .error .notFound => .error (.error (.missing s.path))
  | .error cause => .error (.error (.refused s.path cause))
  | .ok octets => s.ofOctets octets

/-! ### Saving -/

/-- The steps of a save. -/
def saveSteps : List DiskStep := [.makeDirectory, .create, .write, .sync, .rename]

/-- The path that a step is about. -/
def place (s : Store) : DiskStep → Path
  | .makeDirectory                            => s.directory
  | .create | .write | .sync | .cleanUp       => s.draftPath
  | .rename | .read                           => s.path

/-- The files after a change, or the files as they were and why they could not be changed. -/
def changed (files : FileTree) : Except FileError FileTree → FileTree × Option FileError
  | .ok files => (files, none)
  | .error cause => (files, some cause)

/-- The files after a step of saving some octets, and why it could not be done. -/
def attempt (s : Store) (octets : List UInt8) (files : FileTree) :
    DiskStep → FileTree × Option FileError
  | .makeDirectory =>
    match files.makeDirectories s.directory with
    | (files, .ok ())       => (files, none)
    | (files, .error cause) => (files, some cause)
  | .create  => changed files (files.write s.draftPath [])
  | .write   => changed files (files.write s.draftPath octets)
  | .rename  => changed files (files.rename s.draftPath s.path)
  | .cleanUp => changed files (files.removeFile s.draftPath)
  | .sync | .read => (files, none)

/-- The files after some steps of saving some octets, up to the first one that could not be
done, and that one. -/
def perform (s : Store) (refused : Refusals) (octets : List UInt8) :
    List DiskStep → FileTree → FileTree × Option (DiskStep × FileError)
  | [], files => (files, none)
  | step :: rest, files =>
    if refused step then (files, some (step, .refused))
    else
      match s.attempt octets files step with
      | (files, none)       => s.perform refused octets rest files
      | (files, some cause) => (files, some (step, cause))

/-- The files without the draft, after a step of a save failed. A draft that cannot be removed
stays. When the directory could not be made there is no draft. -/
def cleanUp (s : Store) (refused : Refusals) (failed : DiskStep) (files : FileTree) : FileTree :=
  if failed = .makeDirectory then files else (s.perform refused [] [.cleanUp] files).1

/-- The files after saving a snapshot, and why it was not saved. -/
def save (s : Store) (refused : Refusals) (files : FileTree) (x : Snapshot) :
    FileTree × Option SnapshotError :=
  match s.perform refused x.octets saveSteps files with
  | (files, none) => (files, none)
  | (files, some (step, cause)) =>
    (s.cleanUp refused step files, some (.refused (s.place step) cause))

end Store

end TranscriptSearch
