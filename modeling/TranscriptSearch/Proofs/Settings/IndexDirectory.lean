import TranscriptSearch.Proofs.Settings.Discovery
import TranscriptSearch.Settings.Merge

/-!
# Settings — where the index directory is

The index directory of a stack of settings files is put together from two files: the closest one
that sets a directory says which, and the closest one of all says from where a relative one is
taken.  It is the place that the first file means as long as the second lies in the same directory;
a closer file in another directory moves it, though it sets no directory itself.

* `Settings.SetsDirectory`: the closest file that sets a directory.
* `Settings.base`: the directory from which a relative index directory is taken.
* `Settings.indexDirectory_of_stack`: the index directory of a stack, and when it stays in place.
* `Settings.indexDirectory_moves`: a closer file that sets something else moves it.
-/

namespace TranscriptSearch.Settings

variable {fs closer : List SettingsFile} {f : SettingsFile} {cwd dir home : Path}

/-- The closest file of a stack that sets an index directory, and which it sets. -/
structure SetsDirectory (fs : List SettingsFile) (f : SettingsFile) (dir : Path) : Prop where
  /-- No closer file sets one. -/
  first : ∃ before, IsFirst (fun g => g.directory? ≠ none) fs before f
  /-- It sets this one. -/
  directory : f.directory? = some dir

/-- The directory from which a relative index directory is taken: that of the closest file, or the
working directory where there is none. -/
def base (fs : List SettingsFile) (cwd : Path) : Path :=
  (fs.head?.bind fun f => Path.parent? f.path).getD cwd

theorem indexDirectory_ofFiles (fs : List SettingsFile) (cwd : Path) :
    (ofFiles fs).indexDirectory cwd = Path.join (base fs cwd) (ofFiles fs).directory := rfl

/-- Files that set no directory are passed over. -/
theorem directory_append (h : ∀ c ∈ closer, c.directory? = none) :
    (ofFiles (closer ++ fs)).directory = (ofFiles fs).directory := by
  have none_set : closer.findSome? SettingsFile.directory? = none := List.findSome?_eq_none_iff.2 h
  simp only [ofFiles, List.findSome?_append, none_set, Option.none_or]

namespace SetsDirectory

/-- The directory in force is that of the closest file that sets one. -/
theorem directory_eq (h : SetsDirectory fs f dir) : (ofFiles fs).directory = dir := by
  obtain ⟨before, hfirst⟩ := h.first
  obtain ⟨after, rfl⟩ := hfirst.cut
  have none_set : before.findSome? SettingsFile.directory? = none :=
    List.findSome?_eq_none_iff.2 fun c hc => not_not.1 (hfirst.before c hc)
  simp only [ofFiles, List.findSome?_append, none_set, Option.none_or, List.findSome?_cons,
    h.directory, Option.getD_some]

/-- **The index directory** is the one that is set, inside the directory of the closest file. -/
theorem indexDirectory_eq (h : SetsDirectory fs f dir) (cwd : Path) :
    (ofFiles fs).indexDirectory cwd = Path.join (base fs cwd) dir := by
  rw [indexDirectory_ofFiles, h.directory_eq]

/-- The index directory is inside the directory of the file that sets it just when the closest file
lies there too. -/
theorem indexDirectory_eq_join_iff (h : SetsDirectory fs f dir)
    (hdir : Path.isAbsolute dir = false) :
    (ofFiles fs).indexDirectory cwd = Path.join home dir ↔
      Path.opened (base fs cwd) = Path.opened home := by
  rw [h.indexDirectory_eq cwd, Path.join_eq_join_iff hdir]

/-- Closer files that set no directory leave the index directory in place just when the closest of
them lies in the directory of the one that was closest before. -/
theorem indexDirectory_append_iff (h : SetsDirectory fs f dir) (hdir : Path.isAbsolute dir = false)
    (hcloser : ∀ c ∈ closer, c.directory? = none) :
    (ofFiles (closer ++ fs)).indexDirectory cwd = (ofFiles fs).indexDirectory cwd ↔
      Path.opened (base (closer ++ fs) cwd) = Path.opened (base fs cwd) := by
  rw [indexDirectory_ofFiles, directory_append hcloser, h.directory_eq, h.indexDirectory_eq cwd,
    Path.join_eq_join_iff hdir]

end SetsDirectory

/-- **The index directory of a stack of settings files.**  Let a file be the closest that sets a
directory.  The index directory is that directory, taken from where the closest file of all lies.
Where this is the directory of the file that sets it, so in particular where that file is the
closest one, the index directory is what the file says.  Closer files that set no directory leave it
in place where the closest of them lies in the directory of the one that was closest before.  For a
relative directory these conditions are also needed; an absolute one stays in place whatever is
closer. -/
theorem indexDirectory_of_stack (fs : List SettingsFile) (cwd : Path) (f : SettingsFile)
    (dir : Path) (h : SetsDirectory fs f dir) :
    (ofFiles fs).indexDirectory cwd = Path.join (base fs cwd) dir ∧
      (∀ home, Path.parent? f.path = some home →
        ((fs.head?.bind fun c => Path.parent? c.path) = some home →
          (ofFiles fs).indexDirectory cwd = Path.join home dir) ∧
        (Path.isAbsolute dir = false →
          ((ofFiles fs).indexDirectory cwd = Path.join home dir ↔
            Path.opened (base fs cwd) = Path.opened home))) ∧
      ∀ closer : List SettingsFile, (∀ c ∈ closer, c.directory? = none) →
        (base (closer ++ fs) cwd = base fs cwd ∨ Path.isAbsolute dir = true →
          (ofFiles (closer ++ fs)).indexDirectory cwd = (ofFiles fs).indexDirectory cwd) ∧
        (Path.isAbsolute dir = false →
          ((ofFiles (closer ++ fs)).indexDirectory cwd = (ofFiles fs).indexDirectory cwd ↔
            Path.opened (base (closer ++ fs) cwd) = Path.opened (base fs cwd))) := by
  refine ⟨h.indexDirectory_eq cwd, fun home _ => ⟨fun hhead => ?_, h.indexDirectory_eq_join_iff⟩,
    fun closer hcloser => ⟨?_, fun hdir => h.indexDirectory_append_iff hdir hcloser⟩⟩
  · rw [h.indexDirectory_eq cwd, base, hhead, Option.getD_some]
  · rw [indexDirectory_ofFiles, directory_append hcloser, h.directory_eq, h.indexDirectory_eq cwd]
    rintro (hbase | habsolute)
    · rw [hbase]
    · rw [Path.join_of_isAbsolute _ habsolute, Path.join_of_isAbsolute _ habsolute]

/-- A file in `/w` that sets the index directory. -/
def setter : SettingsFile := ⟨"/w/.scribe.toml".toList, none, some ⟨some "idx".toList, none⟩, none⟩

/-- A file of some name that sets the qualifier names and nothing else. -/
def naming (path : String) : SettingsFile := ⟨path.toList, none, none, some ⟨some ["year".toList]⟩⟩

theorem setsDirectory_setter : SetsDirectory [setter] setter "idx".toList :=
  ⟨⟨[], .head [] (by decide)⟩, rfl⟩

/-- The index directory is inside the directory of the file that sets it, and stays there when a
closer file of the same directory sets something else. -/
theorem setter_indexDirectory :
    SetsDirectory [setter] setter "idx".toList ∧
      (ofFiles [setter]).indexDirectory "/w/a".toList = "/w/idx".toList ∧
      (ofFiles [naming "/w/near.toml", setter]).indexDirectory "/w/a".toList = "/w/idx".toList := by
  have parent : Path.parent? setter.path = some "/w".toList := by decide
  obtain ⟨-, hplace, hcloser⟩ :=
    indexDirectory_of_stack [setter] "/w/a".toList setter "idx".toList setsDirectory_setter
  have set := (hplace "/w".toList parent).1 parent
  refine ⟨setsDirectory_setter, set, ?_⟩
  have here : base [naming "/w/near.toml", setter] "/w/a".toList = base [setter] "/w/a".toList := by
    decide
  exact ((hcloser [naming "/w/near.toml"] (by decide)).1 (.inl here)).trans set

/-- A directory with a file that sets the index directory, and one below it with a file that sets
the qualifier names. -/
def setAbove : FileTree where
  entries := .ofList
    [(["w".toList], .directory), (["w".toList, "a".toList], .directory),
      (["w".toList, fileName], .file (Text.encode "[index]\ndir = \"idx\"\n".toList)),
      (["w".toList, "a".toList, fileName],
        .file (Text.encode "[search]\nqualifiers = \"year\"\n".toList))]

/-- **A closer file moves the index directory,** though it sets none.  The directory `idx` that the
file in `/w` sets is taken from `/w/a` as soon as a file lies there, so that runs from `/w` and from
`/w/a` use different indexes. -/
theorem indexDirectory_moves :
    SetsDirectory [naming "/w/a/.scribe.toml", setter] setter "idx".toList ∧
      Path.parent? setter.path = some "/w".toList ∧
      (ofFiles [setter]).indexDirectory "/w/a".toList = "/w/idx".toList ∧
      (ofFiles [naming "/w/a/.scribe.toml", setter]).indexDirectory "/w/a".toList =
        "/w/a/idx".toList ∧
      (load setAbove "/".toList "/w".toList).toOption.map (fun s => s.indexDirectory "/w".toList) =
        some "/w/idx".toList ∧
      (load setAbove "/".toList "/w/a".toList).toOption.map
        (fun s => s.indexDirectory "/w/a".toList) = some "/w/a/idx".toList := by
  have first : IsFirst (fun g : SettingsFile => g.directory? ≠ none)
      [naming "/w/a/.scribe.toml", setter] [naming "/w/a/.scribe.toml"] setter :=
    .cons (by decide) (.head [] (by decide))
  refine ⟨⟨⟨_, first⟩, rfl⟩, ?_, ?_, ?_, ?_, ?_⟩ <;> decide

end TranscriptSearch.Settings
