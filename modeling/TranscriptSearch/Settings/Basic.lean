import TranscriptSearch.Files.Path
import TranscriptSearch.Query.Vocabulary
import TranscriptSearch.Snapshot.Fingerprint

/-!
# Settings

The settings in force: where the index is kept, how short a term may be, and which qualifiers
a query may use. A directory that is not absolute is taken from the directory of the closest
settings file, or from the working directory when there is none.

* `Settings.indexDirectory`: the directory of the index.
-/

namespace TranscriptSearch

/-- The settings in force. -/
structure Settings where
  /-- The directory of the index, as written. -/
  directory : Path
  /-- The least length of a term, as written. -/
  minTermLength : Nat
  /-- The qualifier names, as written. -/
  qualifiers : List Text
  /-- The directory of the closest settings file. -/
  root : Option Path
deriving DecidableEq, Repr

namespace Settings

/-- The qualifiers that a search knows how to decide. -/
def knownQualifiers : List Text := ["year", "session", "track", "transcript"].map String.toList

/-- The directory of an index when no settings name one. -/
def defaultDirectory : Path := ".scribe".toList

/-- The settings without any settings file. -/
def default : Settings := ⟨defaultDirectory, 1, knownQualifiers, none⟩

instance : Inhabited Settings := ⟨default⟩

/-- The directory of the index, for a working directory. -/
def indexDirectory (s : Settings) (cwd : Path) : Path := Path.join (s.root.getD cwd) s.directory

/-- The rule for terms. -/
def rule (s : Settings) : TermRule := .ofMinLength s.minTermLength

/-- The names that a query may use. -/
def vocabulary (s : Settings) : Query.Vocabulary := .ofNames s.qualifiers

/-- The fingerprint that a snapshot must carry. -/
def fingerprint (s : Settings) : Text := s.rule.fingerprint

end Settings

end TranscriptSearch
