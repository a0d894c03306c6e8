import TranscriptSearch.Settings.Basic
import TranscriptSearch.Toml.Writer

/-!
# Settings — as the text of a settings file

The settings in force, written as a settings file that sets all of them.
-/

namespace TranscriptSearch

/-- The settings as the text of a settings file. -/
def Settings.render (s : Settings) : Text :=
  "[index]\n".toList
    ++ Toml.writePair "dir" (Toml.writeString s.directory)
    ++ Toml.writePair "min_token_len" (Number.decimal s.minTermLength)
    ++ "\n[search]\n".toList
    ++ Toml.writePair "qualifiers" (Toml.writeStrings s.qualifiers)

end TranscriptSearch
