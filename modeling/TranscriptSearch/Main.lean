import Std.Time.DateTime.Timestamp
import TranscriptSearch.CommandLine.Run

/-!
# The program

Reads from the disk what a run looks at, lets the run happen, and writes back what it changed.
When the disk does not take the changes, the run is told that saving is refused.
-/

namespace TranscriptSearch.Disk

/-- The path of a place. -/
def pathOf (place : Place) : String := String.ofList (['/'] ++ ['/'].intercalate place)

/-- What stands at a place of the disk. -/
def probe (place : Place) : IO (Option Entry) := do
  try
    return some (.file (← IO.FS.readBinFile (pathOf place)).toList)
  catch
    | .noFileOrDirectory .. => return none
    | _ => return some .directory

/-- The files with what stands on the way to a path. -/
def note (files : FileTree) (p : Path) : IO FileTree := do
  let mut files := files
  let mut place : Place := []
  for c in Path.components p do
    place := if c = ['.', '.'] then place.dropLast else place ++ [c]
    if !place.isEmpty then
      if let some entry ← probe place then files := files.set place entry
  return files

/-- Writes what stands at a place. A file is written beside its place first. -/
def put (place : Place) : Entry → IO Unit
  | .directory => IO.FS.createDirAll (pathOf place)
  | .file octets => do
    let draft := pathOf place ++ ".tmp"
    IO.FS.writeBinFile draft ⟨octets.toArray⟩
    IO.FS.rename draft (pathOf place)

/-- Writes the differences of some files to others. -/
def writeBack (before after : FileTree) : IO Unit := do
  for (place, entry) in after.entries.toList do
    if before.at? place != some entry then put place entry
  for (place, _) in before.entries.toList do
    if (after.at? place).isNone then IO.FS.removeFile (pathOf place)

/-- The clock. -/
def clock : IO Moment := do
  return .atSecond (.ofInt (← Std.Time.Timestamp.now).toSecondsSinceUnixEpoch.val)

/-- What surrounds a run with some words. -/
def surroundings (words : List Text) : IO Surroundings := do
  let cwd := (toString (← IO.currentDir)).toList
  let home := ((← IO.getEnv "HOME").getD "").toList
  let logs := (← IO.getEnv "SCRIBE_LOG") != some "off"
  let files ← (CommandLine.settingsPaths home cwd).foldlM note .empty
  let files ← note files cwd
  let e : Surroundings := ⟨files, home, cwd, ← clock, logs, .none⟩
  return { e with files := ← (CommandLine.workPaths e words).foldlM note files }

/-- The refusals of a disk that takes no changes. -/
def noChanges : Refusals := fun step => step == .write

/-- A run with some words. -/
def run (words : List Text) : IO Effect := do
  let e ← surroundings words
  let effect := CommandLine.run e words
  try
    writeBack e.files effect.files
    return effect
  catch _ => return CommandLine.run { e with refused := noChanges } words

end TranscriptSearch.Disk

open TranscriptSearch in
/-- Runs with the words after the program's name. -/
def main (words : List String) : IO UInt32 := do
  let start ← IO.monoMsNow
  let effect ← Disk.run (words.map String.toList)
  let elapsed := (← IO.monoMsNow) - start
  IO.print (String.ofList (effect.answer.text elapsed))
  IO.eprint (String.ofList (effect.remarks.text elapsed))
  return .ofNat effect.code
