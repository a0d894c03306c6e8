import Mathlib.Data.List.Basic
import TranscriptSearch.Files.Path
import TranscriptSearch.Proofs.Text.Words

/-!
# Files — the path of a name inside a directory

* `Path.IsName`: a text that is one component.
* `Path.components_join`: the components of a name inside a directory.
* `Path.not_endsAsDirectory_join`, `Path.not_endsInDot_join`: such a path can name a file.
* `Path.join_eq_join_iff`: when a relative path inside two directories is one and the same text.
* `Path.components_of_mem_ancestors`: the components of a path above a path are the first ones of
  its own.
-/

namespace TranscriptSearch

namespace Path

/-- A text is one component: it has no slash and it says something. -/
def IsName (n : Text) : Prop := '/' ∉ n ∧ isVoid n = false

instance (n : Text) : Decidable (IsName n) := inferInstanceAs (Decidable (_ ∧ _))

/-! ### Pieces -/

theorem pieces_ne_nil (p : Text) : pieces p ≠ [] := by
  cases p with
  | nil => exact List.cons_ne_nil _ _
  | cons c rest =>
      rw [pieces]
      split
      · exact List.cons_ne_nil _ _
      · split <;> exact List.cons_ne_nil _ _

theorem pieces_append_slash (a b : Text) : pieces (a ++ '/' :: b) = pieces a ++ pieces b := by
  induction a with
  | nil => rfl
  | cons c a ih =>
      rw [List.cons_append, pieces, pieces, ih]
      split
      · rfl
      · obtain ⟨piece, more, h⟩ := List.exists_cons_of_ne_nil (pieces_ne_nil a)
        rw [h]
        rfl

theorem pieces_of_no_slash {n : Text} (h : '/' ∉ n) : pieces n = [n] := by
  induction n with
  | nil => rfl
  | cons c n ih =>
      obtain ⟨hc, hn⟩ := not_or.1 (mt List.mem_cons.2 h)
      rw [pieces, if_neg (Ne.symm hc), ih hn]

theorem not_isAbsolute_of_isName {n : Text} (h : IsName n) : isAbsolute n = false := by
  cases n with
  | nil => rfl
  | cons c n =>
      have hc : '/' ≠ c := fun e => h.1 (e ▸ List.mem_cons_self)
      simpa [isAbsolute] using Ne.symm hc

/-- What stands before a joined name says the same as the directory. -/
theorem pieces_join (dir : Path) {n : Text} (h : IsName n) :
    ∃ before, pieces (join dir n) = before ++ [n] ∧
      (before.filter fun c => !isVoid c) = components dir := by
  rw [join, if_neg (by simp [not_isAbsolute_of_isName h]), components]
  split
  next hdir =>
    rcases List.eq_nil_or_concat dir with rfl | ⟨d, c, rfl⟩
    · exact ⟨[], pieces_of_no_slash h.1, rfl⟩
    · have hc : c = '/' := by simpa using hdir
      subst hc
      refine ⟨pieces d, ?_, ?_⟩
      · rw [List.concat_eq_append, List.append_assoc, List.singleton_append, pieces_append_slash,
          pieces_of_no_slash h.1]
      · rw [List.concat_eq_append, pieces_append_slash, List.filter_append]
        exact (List.append_nil _).symm
  next =>
    refine ⟨pieces dir, ?_, rfl⟩
    rw [List.append_assoc, List.singleton_append, pieces_append_slash, pieces_of_no_slash h.1]

theorem components_join (dir : Path) {n : Text} (h : IsName n) :
    components (join dir n) = components dir ++ [n] := by
  obtain ⟨before, hpieces, hbefore⟩ := pieces_join dir h
  rw [components, hpieces, List.filter_append, hbefore, List.filter_singleton, h.2]
  rfl

theorem not_endsAsDirectory_join (dir : Path) {n : Text} (h : IsName n) :
    endsAsDirectory (join dir n) = false := by
  obtain ⟨before, hpieces, -⟩ := pieces_join dir h
  rw [endsAsDirectory, hpieces, List.getLast?_concat, Option.any_some, h.2]

theorem not_endsInDot_join (dir : Path) {n : Text} (h : IsName n) :
    endsInDot (join dir n) = false := by
  obtain ⟨before, hpieces, -⟩ := pieces_join dir h
  obtain ⟨hempty, hdot⟩ : n.isEmpty = false ∧ n ≠ ['.'] := by
    simpa [isVoid, Bool.or_eq_false_iff] using h.2
  rw [endsInDot, hpieces, List.reverse_concat, List.dropWhile_cons, hempty]
  simpa using hdot

/-! ### Relative paths -/

/-- A directory as it stands before a path inside it. -/
def opened (dir : Path) : Text :=
  if dir.isEmpty || dir.getLast? == some '/' then dir else dir ++ ['/']

/-- A relative path stands after its directory. -/
theorem join_of_not_isAbsolute (dir : Path) {p : Path} (h : isAbsolute p = false) :
    join dir p = opened dir ++ p := by
  rw [join, if_neg (by rw [h]; decide), opened]
  split <;> rfl

theorem join_of_isAbsolute (dir : Path) {p : Path} (h : isAbsolute p = true) : join dir p = p := by
  rw [join, if_pos h]

theorem join_eq_join_iff {dir other p : Path} (h : isAbsolute p = false) :
    join dir p = join other p ↔ opened dir = opened other := by
  rw [join_of_not_isAbsolute dir h, join_of_not_isAbsolute other h, List.append_left_inj]

/-! ### Paths above a path -/

theorem intercalate_pieces (p : Text) : ['/'].intercalate (pieces p) = p := by
  induction p with
  | nil => rfl
  | cons c p ih =>
      obtain ⟨piece, more, h⟩ := List.exists_cons_of_ne_nil (pieces_ne_nil p)
      rw [pieces]
      split
      next hc =>
        subst hc
        rw [h] at ih ⊢
        rw [List.intercalate_cons_cons, ih]
        rfl
      next =>
        rw [h] at ih ⊢
        cases more with
        | nil => simpa using ih
        | cons p₂ more =>
            rw [List.intercalate_cons_cons] at ih ⊢
            rw [← ih]
            rfl

/-- What stands before a slash has the first components. -/
theorem components_append_slash (p r : Text) : components p <+: components (p ++ '/' :: r) := by
  rw [components, components, pieces_append_slash, List.filter_append]
  exact List.prefix_append _ _

theorem prefix_withoutVoidEnd (ps : List Text) : withoutVoidEnd ps <+: ps := by
  rw [withoutVoidEnd, ← List.reverse_suffix, List.reverse_reverse]
  exact List.dropWhile_suffix isVoid

theorem prefix_start (p : Path) : start p <+: p := by
  rw [start]
  split
  next h =>
    cases p with
    | nil => cases h
    | cons c p =>
        obtain rfl : c = '/' := by simpa [isAbsolute] using h
        exact ⟨p, rfl⟩
  split
  next h =>
    obtain ⟨more, hp⟩ : ∃ more, pieces p = ['.'] :: more := by
      rw [startsWithDot, beq_iff_eq] at h
      exact List.head?_eq_some_iff.1 h
    have := intercalate_pieces p
    rw [hp] at this
    cases more with
    | nil => exact ⟨[], this⟩
    | cons piece more => exact ⟨_, this⟩
  next => exact List.nil_prefix

theorem components_start (p : Path) : components (start p) = [] := by
  rw [start]
  split
  · rfl
  split <;> rfl

/-- **The components of a parent are the first ones of the path.** -/
theorem components_parent {p q : Path} (h : parent? p = some q) :
    components q <+: components p := by
  rw [parent?] at h
  split at h
  next =>
    split at h <;> cases h
    exact List.nil_prefix
  next =>
    obtain rfl := Option.some.inj h
    -- the parent is joined from the first pieces of the path, those before its last name
    have initial : (steps p).dropLast <+: steps p := List.dropLast_prefix _
    obtain ⟨qs, hqs⟩ : withoutVoidEnd (steps p).dropLast <+: pieces (p.drop (start p).length) :=
      (prefix_withoutVoidEnd _).trans (initial.trans (prefix_withoutVoidEnd _))
    generalize withoutVoidEnd (steps p).dropLast = ps at hqs
    have text : start p ++ ['/'].intercalate (ps ++ qs) = p := by
      rw [hqs, intercalate_pieces]
      exact List.prefix_iff_eq_append.1 (prefix_start p)
    by_cases hp : ps = []
    · rw [hp, List.intercalate_nil, List.append_nil, components_start]
      exact List.nil_prefix
    by_cases hq : qs = []
    · rw [hq, List.append_nil] at text
      exact ⟨[], by rw [text, List.append_nil]⟩
    · rw [Text.intercalate_append _ hp hq, ← List.append_assoc] at text
      rw [← text]
      nth_rewrite 1 [text]
      exact components_append_slash _ _

theorem components_of_mem_ancestorsUpTo {n : Nat} {p q : Path} (h : q ∈ ancestorsUpTo n p) :
    components q <+: components p := by
  induction n generalizing p with
  | zero => cases h
  | succ n ih =>
      rw [ancestorsUpTo, List.mem_cons] at h
      obtain rfl | h := h
      · exact List.prefix_rfl
      · split at h
        next hq => exact (ih h).trans (components_parent hq)
        next => cases h

/-- **The components of a path above a path are the first ones of its own.** -/
theorem components_of_mem_ancestors {p q : Path} (h : q ∈ ancestors p) :
    components q <+: components p :=
  components_of_mem_ancestorsUpTo h

end Path

end TranscriptSearch
