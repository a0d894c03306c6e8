import TranscriptSearch.Proofs.Settings.Layers
import TranscriptSearch.Proofs.Toml.Statement
import TranscriptSearch.Settings.Render
import TranscriptSearch.Settings.Warning

/-!
# Settings — written and read again

The text of the settings sets every one of them, so that a file with that text leaves nothing for
the files below it to set.

* `Settings.asSource`: what a file must set for the settings to be in force.
* `Settings.parse?_render`: the text of the settings is read as that.
* `Settings.render_reloads`: **laid over any other files, the settings are in force again**.
-/

namespace TranscriptSearch

open Number
open Toml (read? statements? writes_decimal writes_writeString writes_writeStrings)

namespace Settings

/-- The settings as what a file sets: all of them, and no root. -/
def asSource (s : Settings) : Source :=
  ⟨none, some ⟨some s.directory, some s.minTermLength⟩, some ⟨some s.qualifiers⟩⟩

/-- The statements of the text of the settings. -/
theorem statements?_render (s : Settings) :
    statements? s.render = some
      [.header false ⟨[], "index".toList⟩,
       .pair ⟨[], "dir".toList⟩ (.string s.directory),
       .pair ⟨[], "min_token_len".toList⟩ (.integer (some (Int.ofNat s.minTermLength))),
       .header false ⟨[], "search".toList⟩,
       .pair ⟨[], "qualifiers".toList⟩ (.array false (s.qualifiers.map .string))] := by
  have index : "[index]\n".toList = '[' :: ("index".toList ++ [']', '\n']) := by decide
  have search : "\n[search]\n".toList = '\n' :: '[' :: ("search".toList ++ [']', '\n']) := by
    decide
  have layout : s.render = '[' :: ("index".toList ++ ']' :: '\n' ::
      (Toml.writePair "dir" (Toml.writeString s.directory) ++
        (Toml.writePair "min_token_len" (decimal s.minTermLength) ++
          ('\n' :: '[' :: ("search".toList ++ ']' :: '\n' ::
            (Toml.writePair "qualifiers" (Toml.writeStrings s.qualifiers) ++ [])))))) := by
    unfold render
    simp only [index, search, List.append_assoc, List.cons_append, List.nil_append, List.append_nil]
  rw [layout, Toml.statements?_header (by decide) (by decide),
    Toml.statements?_writePair (by decide) (by decide) (writes_writeString s.directory),
    Toml.statements?_writePair (by decide) (by decide) (writes_decimal s.minTermLength),
    Toml.statements?_newline, Toml.statements?_header (by decide) (by decide),
    Toml.statements?_writePair (by decide) (by decide) (writes_writeStrings s.qualifiers)]
  rfl

/-- The section on the index that the settings are written as. -/
def indexSection (s : Settings) : Toml :=
  .table .header
    [("dir".toList, .string s.directory),
     ("min_token_len".toList, .integer (some (Int.ofNat s.minTermLength)))]

/-- The section on queries. -/
def searchSection (s : Settings) : Toml :=
  .table .header [("qualifiers".toList, .array false (s.qualifiers.map .string))]

theorem read?_render (s : Settings) :
    read? s.render =
      some [("index".toList, s.indexSection), ("search".toList, s.searchSection)] := by
  have mark : Toml.withoutMark s.render = s.render := rfl
  rw [read?, mark, statements?_render]
  rfl

/-! ### What they set -/

theorem texts?_strings (ts : List Text) :
    Toml.texts? (.array false (ts.map .string)) = some ts := by
  rw [Toml.texts?]
  induction ts with
  | nil => rfl
  | cons t ts ih => rw [List.map_cons, List.mapM_cons, ih]; rfl

theorem index?_indexSection {s : Settings} (hlength : s.minTermLength < UInt64.size) :
    Source.index? s.indexSection = some ⟨some s.directory, some s.minTermLength⟩ := by
  have fields : Toml.section? ["dir", "min_token_len"] s.indexSection =
      some [some (.string s.directory), some (.integer (some (Int.ofNat s.minTermLength)))] := rfl
  have len : Toml.length? (.integer (some (s.minTermLength : Int))) = some s.minTermLength :=
    if_pos hlength
  rw [Source.index?, fields]
  simp [optionally, Toml.text?, len]

theorem search?_searchSection (s : Settings) :
    Source.search? s.searchSection = some ⟨some s.qualifiers⟩ := by
  have fields : Toml.section? ["qualifiers"] s.searchSection =
      some [some (.array false (s.qualifiers.map .string))] := rfl
  rw [Source.search?, fields]
  simp only [Option.bind_eq_bind, Option.bind_some, optionally, texts?_strings]
  rfl

/-- **The text of the settings sets them all**, and no root. -/
theorem parse?_render {s : Settings} (hlength : s.minTermLength < UInt64.size) :
    Source.parse? s.render = some s.asSource := by
  have fields : Toml.section? ["root", "index", "search"] (.table .header
      [("index".toList, s.indexSection), ("search".toList, s.searchSection)]) =
      some [none, some s.indexSection, some s.searchSection] := rfl
  rw [Source.parse?, read?_render, Option.bind_eq_bind, Option.bind_some, fields]
  simp [optionally, index?_indexSection hlength, search?_searchSection, asSource]

/-! ### In force again -/

/-- **Rendered settings reload to themselves and win.**  Let the least length be one of 64 bits.
The text of the settings is read as a file that sets them all and no root.  Laid over any other
files it puts the same settings in force, with the directory of the file as their root, so that the
snapshots that are accepted and the warnings that are given are the same. -/
theorem render_reloads (s : Settings) (hlength : s.minTermLength < UInt64.size) :
    ∃ source : Source, Source.parse? s.render = some source ∧
      source = ⟨none, some ⟨some s.directory, some s.minTermLength⟩, some ⟨some s.qualifiers⟩⟩ ∧
      ∀ (path : Path) (others : List SettingsFile),
        ofFiles (⟨path, source⟩ :: others) = { s with root := Path.parent? path } ∧
          (ofFiles (⟨path, source⟩ :: others)).fingerprint = s.fingerprint ∧
          (ofFiles (⟨path, source⟩ :: others)).warnings = s.warnings :=
  ⟨s.asSource, parse?_render hlength, rfl, fun _ _ => ⟨rfl, rfl, rfl⟩⟩

/-- Settings whose texts take every form: without quotes, with one kind of them or both, with a
backslash and with a line end, a name that is empty, and one that is listed twice. -/
def quoted : Settings :=
  ⟨"a\\b".toList, 0, ["".toList, "it's \"so\"".toList, "two\\\nlines".toList, "".toList], none⟩

/-- They are in force again over a file that sets all of them otherwise. -/
theorem quoted_reloads :
    quoted.minTermLength < UInt64.size ∧
      ∃ source, Source.parse? quoted.render = some source ∧
        ofFiles [⟨"/w/a/.scribe.toml".toList, source⟩,
            ⟨"/w/.scribe.toml".toList, default.asSource⟩] =
          { quoted with root := some "/w/a".toList } := by
  have small : quoted.minTermLength < UInt64.size := by decide
  have parent : Path.parent? "/w/a/.scribe.toml".toList = some "/w/a".toList := by decide
  obtain ⟨source, hparse, -, hmerge⟩ := render_reloads quoted small
  refine ⟨small, source, hparse, ?_⟩
  rw [(hmerge _ _).1, parent]

end Settings

end TranscriptSearch
