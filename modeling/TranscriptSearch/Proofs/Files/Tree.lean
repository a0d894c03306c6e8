import TranscriptSearch.Files.Tree
import TranscriptSearch.Proofs.SortedMap
import TranscriptSearch.Proofs.Files.Path

/-!
# Files — what a change leaves as it was

A path is followed through directories alone, so that a change after which every directory is
still there (`Keeps`) leads no path astray.

* `FileTree.Keeps.walk`, `FileTree.Keeps.isDirectory`: what leads somewhere still leads there.
* `FileTree.follow_join`: where the path of a name inside a directory leads.
* `FileTree.makeDirectories_keeps`, `FileTree.isDirectory_of_makeDirectories`: making directories
  keeps those that are there, and a success means that the directory is there.
* `FileTree.LeadsDown`: from where a path leads to nothing it leads down.
* `FileTree.read_makeUpward`: making directories is then not seen by one who reads a file in
  them.
-/

namespace TranscriptSearch

namespace FileTree

/-! ### Places -/

theorem at?_set {place : Place} (h : place ≠ []) (t : FileTree) (e : Entry) (q : Place) :
    (t.set place e).at? q = if q = place then some e else t.at? q := by
  rw [at?, at?, set]
  cases q with
  | nil => rw [if_neg (Ne.symm h)]; rfl
  | cons n q => exact SortedMap.get?_insert ..

theorem at?_erase {place : Place} (h : place ≠ []) (t : FileTree) (q : Place) :
    (⟨t.entries.erase place⟩ : FileTree).at? q = if q = place then none else t.at? q := by
  rw [at?, at?]
  cases q with
  | nil => rw [if_neg (Ne.symm h)]; rfl
  | cons n q => exact SortedMap.get?_erase ..

theorem ne_nil_of_not_directory {t : FileTree} {q : Place} (h : t.at? q ≠ some .directory) :
    q ≠ [] := by
  rintro rfl
  exact h rfl

/-! ### Directories that stay -/

/-- Every directory of the first tree is a directory of the second. -/
def Keeps (t u : FileTree) : Prop := ∀ q, t.at? q = some .directory → u.at? q = some .directory

variable {t u v : FileTree}

theorem Keeps.refl (t : FileTree) : t.Keeps t := fun _ hq => hq

theorem Keeps.trans (h : t.Keeps u) (h' : u.Keeps v) : t.Keeps v := fun q hq => h' q (h q hq)

theorem keeps_set {place : Place} (h : t.at? place ≠ some .directory) (e : Entry) :
    t.Keeps (t.set place e) := fun q hq => by
  rw [at?_set (ne_nil_of_not_directory h), if_neg fun e : q = place => h (e ▸ hq), hq]

/-! ### Following a path -/

theorem walk_append (t : FileTree) (place : Place) (cs ds : List Text) :
    t.walk place (cs ++ ds) = (t.walk place cs).bind fun q => t.walk q ds := by
  induction cs generalizing place with
  | nil => rfl
  | cons c cs ih =>
      rw [List.cons_append, walk, walk]
      cases t.at? place with
      | none => rfl
      | some e => cases e with
          | file octets => rfl
          | directory =>
              simp only
              split
              · rfl
              · exact ih _

/-- The last component of a way goes out from a directory. -/
theorem of_walk_concat {place q : Place} {cs : List Text} {c : Text}
    (h : t.walk place (cs ++ [c]) = .ok q) :
    ∃ home, t.walk place cs = .ok home ∧ t.at? home = some .directory ∧
      q = if c = ['.', '.'] then home.dropLast else home ++ [c] := by
  rw [walk_append] at h
  cases hw : t.walk place cs with
  | error e => rw [hw] at h; cases h
  | ok home =>
      rw [hw, Except.bind, walk] at h
      refine ⟨home, rfl, ?_⟩
      split at h
      next => cases h
      next => cases h
      next hhome =>
        split at h
        next => cases h
        next => exact ⟨hhome, (Except.ok.inj h).symm⟩

theorem walk_concat {place home : Place} {cs : List Text} {c : Text} (hdots : c ≠ ['.', '.'])
    (hlong : Path.isTooLong c = false) (hw : t.walk place cs = .ok home)
    (hhome : t.at? home = some .directory) : t.walk place (cs ++ [c]) = .ok (home ++ [c]) := by
  rw [walk_append, hw, Except.bind, walk, hhome]
  simp only [hlong, Bool.false_eq_true, if_false, if_neg hdots]
  rfl

/-- A way depends on what stands at the places alone. -/
theorem walk_congr (h : ∀ q, u.at? q = t.at? q) (place : Place) (cs : List Text) :
    u.walk place cs = t.walk place cs := by
  induction cs generalizing place with
  | nil => rfl
  | cons c cs ih => simp only [walk, h, ih]

/-- A way through directories stays a way. -/
theorem Keeps.walk (h : t.Keeps u) {place q : Place} {cs : List Text}
    (hw : t.walk place cs = .ok q) : u.walk place cs = .ok q := by
  induction cs generalizing place with
  | nil => exact hw
  | cons c cs ih =>
      rw [FileTree.walk] at hw ⊢
      cases hp : t.at? place with
      | none => rw [hp] at hw; cases hw
      | some e => cases e with
          | file octets => rw [hp] at hw; cases hw
          | directory =>
              rw [hp] at hw
              rw [h _ hp]
              simp only at hw ⊢
              split at hw
              next => cases hw
              next hc => rw [if_neg hc]; exact ih hw

theorem Keeps.follow (h : t.Keeps u) {p : Path} {q : Place} (hf : t.follow p = .ok q) :
    u.follow p = .ok q := by
  rw [FileTree.follow] at hf ⊢
  split at hf
  next => cases hf
  next h₁ =>
    split at hf
    next => cases hf
    next h₂ => rw [if_neg h₁, if_neg h₂]; exact h.walk hf

theorem walk_of_follow {p : Path} {q : Place} (h : t.follow p = .ok q) :
    t.walk [] p.components = .ok q := by
  rw [follow] at h
  split at h
  next => cases h
  split at h
  next => cases h
  exact h

theorem isDirectory_iff {p : Path} :
    t.isDirectory p = true ↔ ∃ q, t.follow p = .ok q ∧ t.at? q = some .directory := by
  rw [isDirectory, locate]
  cases t.follow p with
  | error e => simp
  | ok q =>
      simp only [Except.ok.injEq, exists_eq_left']
      cases t.at? q with
      | none => by_cases hd : p.endsInDot = true <;> simp [hd]
      | some e => cases e with
          | file octets => by_cases hd : p.endsAsDirectory = true <;> simp [hd]
          | directory => simp

/-- The path of a name inside a directory leads from the directory to the name. -/
theorem follow_join {dir : Path} {n : Text} (hn : Path.IsName n) (hdots : n ≠ ['.', '.'])
    {home q : Place} (hdir : t.follow dir = .ok home) (hhome : t.at? home = some .directory)
    (h : t.follow (Path.join dir n) = .ok q) : q = home ++ [n] := by
  rw [follow] at h hdir
  split at hdir
  next => cases hdir
  split at hdir
  next => cases hdir
  split at h
  next => cases h
  split at h
  next => cases h
  rw [Path.components_join dir hn, walk_append, hdir] at h
  simp only [Except.bind, walk, hhome, if_neg hdots] at h
  split at h
  next => cases h
  next => exact (Except.ok.inj h).symm

/-! ### What stands at a path -/

theorem of_locate {p : Path} {q : Place} {e : Option Entry} (h : t.locate p = .ok (q, e)) :
    t.follow p = .ok q ∧ t.at? q = e := by
  rw [locate] at h
  cases hf : t.follow p with
  | error fault => rw [hf] at h; cases h
  | ok q' =>
      rw [hf] at h
      simp only at h
      split at h
      next hq => split at h <;> cases h; exact ⟨rfl, hq⟩
      next hq => cases h; exact ⟨rfl, hq⟩
      next hq => split at h <;> cases h; exact ⟨rfl, hq⟩

/-- A path that can name a file shows what stands at its place. -/
theorem locate_of_follow {p : Path} {q : Place} (hend : p.endsAsDirectory = false)
    (hdot : p.endsInDot = false) (h : t.follow p = .ok q) : t.locate p = .ok (q, t.at? q) := by
  rw [locate, h]
  simp only [hend, hdot, Bool.false_eq_true, if_false]
  cases hq : t.at? q with
  | none => rfl
  | some e => cases e <;> rfl

/-! ### Single files -/

theorem read_of_follow {p : Path} {q : Place} (hend : p.endsAsDirectory = false)
    (hdot : p.endsInDot = false) (h : t.follow p = .ok q) :
    t.read p =
      match t.at? q with
      | some (.file octets) => .ok octets
      | some .directory     => .error .isDirectory
      | none                => .error .notFound := by
  rw [read, locate_of_follow hend hdot h]
  cases t.at? q with
  | none => rfl
  | some e => cases e <;> rfl

theorem of_read {p : Path} {octets : List UInt8} (h : t.read p = .ok octets) :
    ∃ q, t.follow p = .ok q ∧ t.at? q = some (.file octets) := by
  rw [read] at h
  split at h
  next q octets' hl =>
    cases h
    exact ⟨q, of_locate hl⟩
  all_goals cases h

theorem isFile_iff {t : FileTree} {p : Path} :
    t.isFile p = true ↔ ∃ octets, t.read p = .ok octets := by
  rw [isFile, read]
  split
  next place octets h => simp [h]
  next h =>
    simp only [Bool.false_eq_true, false_iff, not_exists]
    intro octets hread
    split at hread
    next place octets' h' => exact h place octets' h'
    all_goals cases hread

theorem of_write {p : Path} {octets : List UInt8} (h : t.write p octets = .ok u) :
    ∃ q, t.follow p = .ok q ∧ t.at? q ≠ some .directory ∧ u = t.set q (.file octets) := by
  rw [write] at h
  cases hl : t.locate p with
  | error e => rw [hl] at h; cases h
  | ok found =>
      obtain ⟨q, e⟩ := found
      obtain ⟨hf, hq⟩ := of_locate hl
      rw [hl] at h
      have hne : e ≠ some .directory := by
        rintro rfl
        cases h
      refine ⟨q, hf, hq ▸ hne, ?_⟩
      split at h
      next => cases h
      next hl' =>
        split at h <;> cases h
        cases hl'
        rfl
      next hl' => cases hl'

theorem write_of_follow {p : Path} {q : Place} (hend : p.endsAsDirectory = false)
    (hdot : p.endsInDot = false) (h : t.follow p = .ok q) (hq : t.at? q ≠ some .directory)
    (octets : List UInt8) : t.write p octets = .ok (t.set q (.file octets)) := by
  rw [write, locate_of_follow hend hdot h]
  cases hn : t.at? q with
  | none => simp only [hend, Bool.false_eq_true, if_false]
  | some e => cases e with
      | file _ => simp only [hend, Bool.false_eq_true, if_false]
      | directory => exact absurd hn hq

theorem of_removeFile {p : Path} (h : t.removeFile p = .ok u) :
    ∃ q octets, t.follow p = .ok q ∧ t.at? q = some (.file octets) ∧
      u = ⟨t.entries.erase q⟩ := by
  rw [removeFile] at h
  split at h
  next q octets hl =>
    obtain ⟨hf, hq⟩ := of_locate hl
    exact ⟨q, octets, hf, hq, (Except.ok.inj h).symm⟩
  next => cases h
  next => cases h
  next => cases h

/-- A file that was renamed stands at the new place and not at the old one. -/
theorem of_rename {source target : Path} (h : t.rename source target = .ok u) :
    ∃ old new octets, t.follow source = .ok old ∧ t.at? old = some (.file octets) ∧
      t.follow target = .ok new ∧ t.Keeps u ∧
      ∀ q, u.at? q =
        if q = new then some (.file octets) else if q = old then none else t.at? q := by
  rw [rename] at h
  split at h
  next => cases h
  next => cases h
  next => cases h
  next => cases h
  next => cases h
  next old octets new e hne hs ht =>
    obtain ⟨hso, hold⟩ := of_locate hs
    obtain ⟨htn, hnew⟩ := of_locate ht
    obtain rfl := Except.ok.inj h
    -- neither place is a directory, so no place above another is lost
    have oldFree : t.at? old ≠ some .directory := by rw [hold]; exact nofun
    have newFree : t.at? new ≠ some .directory := fun h' => hne (hnew.symm.trans h')
    have hat : ∀ q, (FileTree.set ⟨t.entries.erase old⟩ new (.file octets)).at? q =
        if q = new then some (.file octets) else if q = old then none else t.at? q := fun q => by
      rw [at?_set (ne_nil_of_not_directory newFree), at?_erase (ne_nil_of_not_directory oldFree)]
    refine ⟨old, new, octets, hso, hold, htn, fun q hq => ?_, hat⟩
    rw [hat, if_neg fun e : q = new => newFree (e ▸ hq),
      if_neg fun e : q = old => oldFree (e ▸ hq), hq]

theorem rename_of_follow {source target : Path} {old new : Place} {octets : List UInt8}
    (hsend : source.endsAsDirectory = false) (hsdot : source.endsInDot = false)
    (htend : target.endsAsDirectory = false) (htdot : target.endsInDot = false)
    (hs : t.follow source = .ok old) (hold : t.at? old = some (.file octets))
    (ht : t.follow target = .ok new) (hnew : t.at? new ≠ some .directory) :
    ∃ u, t.rename source target = .ok u := by
  rw [rename, locate_of_follow hsend hsdot hs, locate_of_follow htend htdot ht, hold]
  cases hn : t.at? new with
  | none => exact ⟨_, rfl⟩
  | some e => cases e with
      | file _ => exact ⟨_, rfl⟩
      | directory => exact absurd hn hnew

/-! ### Making directories -/

theorem of_ensureDirectory {p : Path} (h : t.ensureDirectory p = .ok u) :
    (∃ q, t.follow p = .ok q ∧ t.at? q = none ∧ u = t.set q .directory) ∨
      t.isDirectory p = true ∧ u = t := by
  rw [ensureDirectory] at h
  split at h
  next v hm =>
    obtain rfl := Except.ok.inj h
    rw [makeDirectory] at hm
    split at hm
    next q hl =>
      obtain ⟨hf, hq⟩ := of_locate hl
      exact .inl ⟨q, hf, hq, (Except.ok.inj hm).symm⟩
    next => cases hm
    next => cases hm
  next =>
    split at h
    next hd => exact .inr ⟨hd, (Except.ok.inj h).symm⟩
    next => cases h

theorem ensureDirectory_keeps {p : Path} (h : t.ensureDirectory p = .ok u) : t.Keeps u := by
  obtain ⟨q, -, hq, rfl⟩ | ⟨-, rfl⟩ := of_ensureDirectory h
  · exact keeps_set (by rw [hq]; exact nofun) _
  · exact .refl _

theorem isDirectory_of_ensureDirectory {p : Path} (h : t.ensureDirectory p = .ok u) :
    u.isDirectory p = true := by
  have hkeeps := ensureDirectory_keeps h
  obtain ⟨q, hf, hq, rfl⟩ | ⟨hd, rfl⟩ := of_ensureDirectory h
  · have hne : q ≠ [] := ne_nil_of_not_directory (by rw [hq]; exact nofun)
    exact isDirectory_iff.2 ⟨q, hkeeps.follow hf, by rw [at?_set hne, if_pos rfl]⟩
  · exact hd

theorem makeUpward_keeps (t : FileTree) (ps : List Path) : t.Keeps (t.makeUpward ps).1 := by
  induction ps generalizing t with
  | nil => exact .refl t
  | cons p above ih =>
      rw [makeUpward]
      split
      · exact .refl t
      split
      next h => exact ensureDirectory_keeps h
      next =>
        have hu := ih t
        split
        next hm => rwa [hm] at hu
        next hm =>
          rw [hm] at hu
          split
          next h => exact hu.trans (ensureDirectory_keeps h)
          next => exact hu
      next => exact .refl t

/-- Making directories makes no file. -/
theorem file_of_makeUpward {t : FileTree} {ps : List Path} {q : Place} {octets : List UInt8}
    (h : (t.makeUpward ps).1.at? q = some (.file octets)) : t.at? q = some (.file octets) := by
  have ensured : ∀ {t u : FileTree} {p : Path}, t.ensureDirectory p = .ok u →
      u.at? q = some (.file octets) → t.at? q = some (.file octets) := by
    intro t u p hu hq
    obtain ⟨new, -, hnew, rfl⟩ | ⟨-, rfl⟩ := of_ensureDirectory hu
    · rw [at?_set (ne_nil_of_not_directory (by rw [hnew]; exact nofun))] at hq
      split at hq
      next => cases hq
      next => exact hq
    · exact hq
  induction ps generalizing t with
  | nil => exact h
  | cons p above ih =>
      rw [makeUpward] at h
      split at h
      · exact h
      split at h
      next hu => exact ensured hu h
      next =>
        split at h
        next hm => exact ih (by rw [hm]; exact h)
        next hm =>
          refine ih ?_
          rw [hm]
          split at h
          next hu => exact ensured hu h
          next => exact h
      next => exact h

theorem isDirectory_of_makeUpward {p : Path} {above : List Path} {t : FileTree}
    (h : (t.makeUpward (p :: above)).2 = .ok ()) :
    (t.makeUpward (p :: above)).1.isDirectory p = true := by
  rw [makeUpward] at h ⊢
  split at h
  next hp =>
    rw [if_pos hp, List.isEmpty_iff.1 hp]
    rfl
  next hp =>
    rw [if_neg hp]
    cases he : t.ensureDirectory p with
    | ok u => exact isDirectory_of_ensureDirectory he
    | error fault =>
        rw [he] at h
        cases fault with
        | notFound =>
            -- the parent was missing: it is made first, and then the path is tried again
            simp only at h ⊢
            cases hm : t.makeUpward above with
            | mk u result =>
            rw [hm] at h
            cases result with
            | error e => cases h
            | ok _ =>
                simp only at h ⊢
                cases hu : u.ensureDirectory p with
                | ok v => exact isDirectory_of_ensureDirectory hu
                | error e => rw [hu] at h; cases h
        | _ => cases h

theorem makeDirectories_keeps (t : FileTree) (p : Path) : t.Keeps (t.makeDirectories p).1 :=
  makeUpward_keeps t _

/-- A success means that the directory is there. -/
theorem isDirectory_of_makeDirectories {p : Path} (h : (t.makeDirectories p).2 = .ok ()) :
    (t.makeDirectories p).1.isDirectory p = true := isDirectory_of_makeUpward h

/-- A directory that is there is not made again. -/
theorem makeDirectories_of_isDirectory {p : Path} (h : t.isDirectory p = true) :
    t.makeDirectories p = (t, .ok ()) := by
  rw [makeDirectories, Path.ancestors, Path.ancestorsUpTo, makeUpward]
  split
  · rfl
  obtain ⟨q, hf, hq⟩ := isDirectory_iff.1 h
  rw [ensureDirectory, makeDirectory, locate, hf]
  simp only [hq, h, if_true]

/-! ### What is read in new directories -/

/-- Everything stands in a directory. -/
def IsRooted (t : FileTree) : Prop :=
  ∀ q n, t.at? (q ++ [n]) ≠ none → t.at? q = some .directory

theorem isRooted_of_entries (h : ∀ e ∈ t.entries.toList, t.at? e.1.dropLast = some .directory) :
    t.IsRooted := fun q n hne => by
  rw [at?, if_neg (by simp)] at hne
  obtain ⟨e, he⟩ := Option.ne_none_iff_exists'.1 hne
  have := h _ ((SortedMap.get?_eq_some_iff _ _ _).1 he)
  rwa [List.dropLast_concat] at this

/-- A component leads down to an entry. -/
def IsStraight (c : Text) : Prop := Path.isTooLong c = false ∧ c ≠ ['.', '.']

instance (c : Text) : Decidable (IsStraight c) := inferInstanceAs (Decidable (_ ∧ _))

/-- Where components lead to a place with nothing, those after them lead down from there. -/
def LeadsDown (t : FileTree) (cs : List Text) : Prop :=
  ∀ before rest q, cs = before ++ rest → t.walk [] before = .ok q → t.at? q = none →
    ∀ c ∈ rest, IsStraight c

theorem leadsDown_of_isStraight {cs : List Text} (h : ∀ c ∈ cs, IsStraight c) (t : FileTree) :
    t.LeadsDown cs := fun _ _ _ hcs _ _ c hc =>
  h c (hcs ▸ List.mem_append_right _ hc)

/-- Where there is nothing, there is nothing below. -/
theorem IsRooted.below (h : t.IsRooted) {q : Place} (hq : t.at? q = none) (n : Text) :
    t.at? (q ++ [n]) = none := by
  by_contra hne
  rw [h q n hne] at hq
  cases hq

/-- A way that ends with nothing ends in a directory. -/
theorem IsRooted.parent (h : t.IsRooted) {cs : List Text} {q : Place} (hw : t.walk [] cs = .ok q)
    (hq : t.at? q = none) : ∃ home n, q = home ++ [n] ∧ t.at? home = some .directory := by
  rcases List.eq_nil_or_concat cs with rfl | ⟨cs, c, rfl⟩
  · cases hw
    cases hq
  · rw [List.concat_eq_append] at hw
    obtain ⟨home, -, hhome, hlast⟩ := of_walk_concat hw
    split at hlast
    next =>
      -- two dots lead from a directory to the one that it stands in
      rcases List.eq_nil_or_concat home with rfl | ⟨above, n, rfl⟩
      · rw [hlast] at hq
        cases hq
      · rw [List.concat_eq_append, List.dropLast_concat] at hlast
        rw [List.concat_eq_append] at hhome
        rw [hlast, h above n (by rw [hhome]; exact nofun)] at hq
        cases hq
    next => exact ⟨home, c, hlast, hhome⟩

/-- What stands where components lead to. -/
def lookAt (t : FileTree) (place : Place) (cs : List Text) : Except FileError Entry :=
  match t.walk place cs with
  | .error e => .error e
  | .ok q =>
    match t.at? q with
    | none => .error .notFound
    | some e => .ok e

theorem lookAt_of_none {place : Place} (h : t.at? place = none) (cs : List Text) :
    t.lookAt place cs = .error .notFound := by
  cases cs with
  | nil => rw [lookAt, walk]; simp only [h]
  | cons c cs => rw [lookAt, walk, h]

theorem lookAt_cons {place : Place} (h : t.at? place = some .directory) {c : Text}
    (hlong : Path.isTooLong c = false) (hdots : c ≠ ['.', '.']) (cs : List Text) :
    t.lookAt place (c :: cs) = t.lookAt (place ++ [c]) cs := by
  rw [lookAt, walk, h]
  simp only [hlong, Bool.false_eq_true, if_false, if_neg hdots]
  rfl

/-- From nothing on, straight components find nothing after a directory was made there. -/
theorem lookAt_set (ht : t.IsRooted) {q : Place} (hq : t.at? q = none) {cs : List Text}
    (hcs : ∀ c ∈ cs, IsStraight c) (hne : cs ≠ []) :
    (t.set q .directory).lookAt q cs = .error .notFound := by
  have hnil : q ≠ [] := ne_nil_of_not_directory (by rw [hq]; exact nofun)
  obtain ⟨c, cs, rfl⟩ := List.exists_cons_of_ne_nil hne
  obtain ⟨⟨hlong, hdots⟩, -⟩ := List.forall_mem_cons.1 hcs
  rw [lookAt_cons (by rw [at?_set hnil, if_pos rfl]) hlong hdots, lookAt_of_none]
  rw [at?_set hnil, if_neg (by simp)]
  exact ht.below hq c

/-- Making directories on the way of some components is not seen by one who goes on to a name. -/
structure Unseen (cs : List Text) (n : Text) (t u : FileTree) : Prop where
  /-- Everything still stands in a directory. -/
  rooted : u.IsRooted
  /-- The components still lead down. -/
  leadsDown : u.LeadsDown cs
  /-- What stands at the name is the same. -/
  same : u.lookAt [] (cs ++ [n]) = t.lookAt [] (cs ++ [n])

variable {cs : List Text} {n : Text}

theorem Unseen.refl (ht : t.IsRooted) (hd : t.LeadsDown cs) (n : Text) : Unseen cs n t t :=
  ⟨ht, hd, rfl⟩

theorem Unseen.trans (h : Unseen cs n t u) (h' : Unseen cs n u v) : Unseen cs n t v :=
  ⟨h'.rooted, h'.leadsDown, h'.same.trans h.same⟩

/-- **A new directory where the components first lead to nothing** is not seen. -/
theorem unseen_set (ht : t.IsRooted) (hd : t.LeadsDown cs) (hn : IsStraight n)
    {before : List Text} (hbefore : before <+: cs) {q : Place} (hw : t.walk [] before = .ok q)
    (hq : t.at? q = none) : Unseen cs n t (t.set q .directory) := by
  have hfree : t.at? q ≠ some .directory := by rw [hq]; exact nofun
  have hat := fun p => at?_set (ne_nil_of_not_directory hfree) t .directory p
  have keeps := keeps_set hfree .directory
  obtain ⟨rest, rfl⟩ := hbefore
  have hrest : ∀ c ∈ rest, IsStraight c := hd before rest q rfl hw hq
  refine ⟨fun p m hne => ?_, fun before' rest' p hcs hw' hp c hc => ?_, ?_⟩
  · rw [hat] at hne
    split at hne
    next hpm =>
      obtain ⟨home, m', hhome, hdir⟩ := ht.parent hw hq
      rw [hhome] at hpm
      rw [List.append_inj_left' hpm rfl]
      exact keeps home hdir
    next => exact keeps p (ht p m hne)
  · -- a way that ends with nothing goes on from the new directory
    obtain ⟨r, hr⟩ | ⟨r, hr⟩ := List.prefix_or_prefix_of_prefix
      (⟨rest', hcs.symm⟩ : before' <+: before ++ rest) (List.prefix_append before rest)
    · cases r with
      | nil =>
          rw [List.append_nil] at hr
          rw [hr, keeps.walk hw] at hw'
          obtain rfl := Except.ok.inj hw'
          rw [hat, if_pos rfl] at hp
          cases hp
      | cons d r =>
          have := keeps.walk hw
          rw [← hr, walk_append, hw', Except.bind, walk, hp] at this
          cases this
    · rw [← hr, List.append_assoc] at hcs
      exact hrest c (List.append_cancel_left hcs ▸ List.mem_append_right r hc)
  · have hstraight : ∀ c ∈ rest ++ [n], IsStraight c := fun c hc => by
      rcases List.mem_append.1 hc with hc | hc
      · exact hrest c hc
      · exact List.mem_singleton.1 hc ▸ hn
    have split : ∀ {v : FileTree}, v.walk [] before = .ok q →
        v.lookAt [] (before ++ rest ++ [n]) = v.lookAt q (rest ++ [n]) := fun {v} hv => by
      rw [lookAt, lookAt, List.append_assoc, walk_append, hv]
      rfl
    rw [split hw, split (keeps.walk hw), lookAt_set ht hq hstraight (by simp), lookAt_of_none hq]

theorem unseen_ensureDirectory (ht : t.IsRooted) (hd : t.LeadsDown cs) (hn : IsStraight n)
    {p : Path} (hp : p.components <+: cs) (h : t.ensureDirectory p = .ok u) : Unseen cs n t u := by
  obtain ⟨q, hf, hq, rfl⟩ | ⟨-, rfl⟩ := of_ensureDirectory h
  · exact unseen_set ht hd hn hp (walk_of_follow hf) hq
  · exact .refl ht hd n

theorem unseen_makeUpward (ht : t.IsRooted) (hd : t.LeadsDown cs) (hn : IsStraight n)
    {ps : List Path} (hps : ∀ p ∈ ps, p.components <+: cs) :
    Unseen cs n t (t.makeUpward ps).1 := by
  -- the same recursion as in `makeUpward`: a path is tried again after those above it
  induction ps with
  | nil => exact .refl ht hd n
  | cons p above ih =>
      obtain ⟨hp, habove⟩ := List.forall_mem_cons.1 hps
      rw [makeUpward]
      split
      · exact .refl ht hd n
      split
      next h => exact unseen_ensureDirectory ht hd hn hp h
      next =>
        have hu := ih habove
        split
        next hm => rwa [hm] at hu
        next hm =>
          rw [hm] at hu
          split
          next h => exact hu.trans (unseen_ensureDirectory hu.rooted hu.leadsDown hn hp h)
          next => exact hu
      next => exact .refl ht hd n

theorem read_eq_lookAt {p : Path} (hend : p.endsAsDirectory = false) (hdot : p.endsInDot = false)
    (t : FileTree) :
    t.read p =
      if p.contains '\x00' then .error .zeroCharacter
      else if Path.lengthLimit < p.utf8Length then .error .nameTooLong
      else
        match t.lookAt [] p.components with
        | .error e          => .error e
        | .ok (.file o)     => .ok o
        | .ok .directory    => .error .isDirectory := by
  by_cases hzero : p.contains '\x00' = true
  · rw [read, locate, follow, if_pos hzero, if_pos hzero]
  by_cases hlong : Path.lengthLimit < p.utf8Length
  · rw [read, locate, follow, if_neg hzero, if_pos hlong, if_neg hzero, if_pos hlong]
  have hf : t.follow p = t.walk [] p.components := by rw [follow, if_neg hzero, if_neg hlong]
  rw [if_neg hzero, if_neg hlong, lookAt]
  cases hw : t.walk [] p.components with
  | error e => rw [read, locate, hf, hw]
  | ok q =>
      rw [read_of_follow hend hdot (hf.trans hw)]
      cases hq : t.at? q with
      | none => simp only [hq]
      | some e => cases e <;> simp only [hq]

/-- **Making directories is not seen by one who reads a file in them**, as far as it came. -/
theorem read_makeUpward (ht : t.IsRooted) {dir : Path} (hd : t.LeadsDown dir.components)
    (hname : Path.IsName n) (hn : IsStraight n) {ps : List Path} (hps : ps ⊆ dir.ancestors) :
    (t.makeUpward ps).1.read (Path.join dir n) = t.read (Path.join dir n) := by
  have look := (unseen_makeUpward ht hd hn
    fun _ hp => Path.components_of_mem_ancestors (p := dir) (hps hp)).same
  have hend := Path.not_endsAsDirectory_join dir hname
  have hdot := Path.not_endsInDot_join dir hname
  rw [read_eq_lookAt hend hdot, read_eq_lookAt hend hdot, Path.components_join dir hname, look]

/-- Components that lead to a directory that is there lead down. -/
theorem leadsDown_of_walk {home : Place} (h : t.walk [] cs = .ok home)
    (hhome : t.at? home = some .directory) : t.LeadsDown cs := by
  intro before rest q hcs hw hq
  rw [hcs, walk_append, hw, Except.bind] at h
  cases rest with
  | nil =>
      rw [walk] at h
      obtain rfl := Except.ok.inj h
      rw [hq] at hhome
      cases hhome
  | cons c rest =>
      rw [walk, hq] at h
      cases h

/-- So does a path to one. -/
theorem leadsDown_of_follow {p : Path} {home : Place} (h : t.follow p = .ok home)
    (hhome : t.at? home = some .directory) : t.LeadsDown p.components :=
  leadsDown_of_walk (walk_of_follow h) hhome

end FileTree

end TranscriptSearch
