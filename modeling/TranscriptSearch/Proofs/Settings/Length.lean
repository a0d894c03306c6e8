import TranscriptSearch.Proofs.Settings.Layers

/-!
# Settings — the least length of a term fits a machine word

A settings file may set any whole number of 64 bits as the least length of a term.  No other
length comes into force, so that the length can be written down and read again.

* `Toml.length_lt`: a length that a value stands for.
* `Source.length_lt`: the length that a settings file sets.
* `Settings.length_lt`: the length in force.
-/

namespace TranscriptSearch

theorem Toml.length_lt {v : Toml} {n : Nat} (h : v.length? = some n) : n < UInt64.size := by
  rw [length?.eq_def] at h
  split at h
  next =>
    split at h
    next hn => exact Option.some.inj h ▸ hn
    next => cases h
  next => cases h

theorem optionally_eq_some_some {α β : Type} {read : α → Option β} {a? : Option α} {b : β}
    (h : optionally read a? = some (some b)) : ∃ a, read a = some b := by
  cases a? with
  | none => cases h
  | some a =>
      obtain ⟨b', hb, e⟩ := Option.map_eq_some_iff.1 h
      exact ⟨a, by rw [hb, Option.some.inj e]⟩

namespace Source

theorem length_lt_of_index? {v : Toml} {s : IndexSource} (h : index? v = some s) {n : Nat}
    (hn : s.minTermLength = some n) : n < UInt64.size := by
  simp only [index?, Option.bind_eq_bind, Option.bind_eq_some_iff] at h
  obtain ⟨fields, -, h⟩ := h
  split at h
  next dir len =>
    obtain ⟨dir', -, h⟩ := Option.bind_eq_some_iff.1 h
    obtain ⟨len', hlen, h⟩ := Option.bind_eq_some_iff.1 h
    cases h
    obtain ⟨v, hv⟩ := optionally_eq_some_some (hlen.trans (congrArg some hn))
    exact Toml.length_lt hv
  next => cases h

theorem length_lt_of_parse? {t : Text} {s : Source} (h : parse? t = some s) {i : IndexSource}
    (hi : s.index = some i) {n : Nat} (hn : i.minTermLength = some n) : n < UInt64.size := by
  simp only [parse?, Option.bind_eq_bind, Option.bind_eq_some_iff] at h
  obtain ⟨entries, -, fields, -, h⟩ := h
  split at h
  next root index search =>
    obtain ⟨root', -, h⟩ := Option.bind_eq_some_iff.1 h
    obtain ⟨index', hindex, h⟩ := Option.bind_eq_some_iff.1 h
    obtain ⟨search', -, h⟩ := Option.bind_eq_some_iff.1 h
    cases h
    obtain ⟨v, hv⟩ := optionally_eq_some_some (hindex.trans (congrArg some hi))
    exact length_lt_of_index? hv hn
  next => cases h

theorem length_lt {files : FileTree} {path : Path} {s : Source} (h : load files path = .ok s)
    {i : IndexSource} (hi : s.index = some i) {n : Nat} (hn : i.minTermLength = some n) :
    n < UInt64.size := by
  rw [load] at h
  split at h
  next => cases h
  next =>
    split at h
    next => cases h
    next =>
      split at h
      next => cases h
      next hparse =>
        cases h
        exact length_lt_of_parse? hparse hi hn

end Source

namespace Settings

/-- **The length in force** has 64 bits. -/
theorem length_lt {files : FileTree} {home cwd : Path} {s : Settings}
    (h : load files home cwd = .ok s) : s.minTermLength < UInt64.size := by
  rcases loadFiles_cases files (discover files home cwd) with
    ⟨layers, -, hload, hok⟩ | ⟨-, -, e, -, -, herror⟩
  · rw [load, hok] at h
    cases h
    change (layers.findSome? SettingsFile.minTermLength?).getD 1 < UInt64.size
    cases hn : layers.findSome? SettingsFile.minTermLength? with
    | none => decide
    | some n =>
        obtain ⟨f, hf, hfn⟩ := List.exists_of_findSome?_eq_some hn
        obtain ⟨i, hi, hlen⟩ := Option.bind_eq_some_iff.1 hfn
        exact Source.length_lt (hload f hf) hi hlen
  · rw [load, herror] at h
    cases h

/-- So has the least length of a term by these settings. -/
theorem minLength_rule_lt {files : FileTree} {home cwd : Path} {s : Settings}
    (h : load files home cwd = .ok s) : s.rule.minLength < UInt64.size :=
  Nat.max_lt.2 ⟨length_lt h, by decide⟩

end Settings

end TranscriptSearch
