import TranscriptSearch.Settings.Source

/-!
# Settings — layers of settings files

Settings files are given closest first. Each setting is taken from the first file that sets it,
and the directory of the first file is the root of the settings.

* `Settings.ofFiles`: the settings of some files.
-/

namespace TranscriptSearch

/-- A settings file and what it sets. -/
structure SettingsFile where
  /-- The path of the file. -/
  path : Path
  /-- What it sets. -/
  source : Source
deriving DecidableEq, Repr

namespace SettingsFile

/-- The directory of the index that a file sets. -/
def directory? (f : SettingsFile) : Option Path := f.source.index.bind IndexSource.directory

/-- The least length of a term that a file sets. -/
def minTermLength? (f : SettingsFile) : Option Nat := f.source.index.bind IndexSource.minTermLength

/-- The qualifier names that a file sets. -/
def qualifiers? (f : SettingsFile) : Option (List Text) :=
  f.source.search.bind SearchSource.qualifiers

end SettingsFile

/-- The settings of some files, closest first. -/
def Settings.ofFiles (files : List SettingsFile) : Settings where
  directory := (files.findSome? SettingsFile.directory?).getD Settings.default.directory
  minTermLength := (files.findSome? SettingsFile.minTermLength?).getD Settings.default.minTermLength
  qualifiers := (files.findSome? SettingsFile.qualifiers?).getD Settings.default.qualifiers
  root := files.head?.bind fun f => Path.parent? f.path

end TranscriptSearch
