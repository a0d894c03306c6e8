import TranscriptSearch.Settings.Merge

/-!
# Settings — which files count

The settings files that count for a working directory are those in the directory and the
directories above it, closest first, up to the first that calls itself the root. When none does,
the file in the home directory counts last.

* `Settings.discover`: the settings files that count.
* `Settings.load`: the settings in force in a directory.
-/

namespace TranscriptSearch

namespace Settings

/-- The name of a settings file. -/
def fileName : Text := ".scribe.toml".toList

/-- The path of the settings file of the home directory. -/
def globalPath (home : Path) : Path := Path.join home fileName

/-- Whether the file at a path calls itself the root. One that sets nothing does not. -/
def isRootFile (files : FileTree) (path : Path) : Bool :=
  match Source.load files path with
  | .ok s => s.isRoot.getD false
  | .error _ => false

/-- The settings files of some directories up to the first root, and whether there was one. -/
def climb (files : FileTree) : List Path → List Path × Bool
  | [] => ([], false)
  | dir :: above =>
    let path := Path.join dir fileName
    if files.isFile path then
      if isRootFile files path then ([path], true)
      else
        let (paths, stopped) := climb files above
        (path :: paths, stopped)
    else climb files above

/-- The settings files that count for a working directory, closest first. -/
def discover (files : FileTree) (home cwd : Path) : List Path :=
  let (paths, stopped) := climb files (Path.ancestors cwd)
  let last := globalPath home
  if !stopped && files.isFile last && !paths.any (Path.same last) then paths ++ [last] else paths

/-- The settings of the files at some paths, closest first. -/
def loadFiles (files : FileTree) (paths : List Path) : Except Source.LoadError Settings := do
  return .ofFiles (← paths.mapM fun p => return ⟨p, ← Source.load files p⟩)

/-- The settings in force in a working directory. -/
def load (files : FileTree) (home cwd : Path) : Except Source.LoadError Settings :=
  loadFiles files (discover files home cwd)

end Settings

end TranscriptSearch
