import TranscriptSearch.Text.Basic

/-!
# Text — places counted in octets

A place in a text is the number of octets before it.  It can be inside a character or behind the
end of the text, and there nothing can be cut.

* `cut?`: the part of a text between two places.
* `split`: the parts of a text before and after a place.
* `placeOf?`: the place of the first character of a kind.
* `cut?_append`, `split_append`, `placeOf?_append`: at the place between two texts.
-/

namespace TranscriptSearch.Text

/-- The part of a text between two places, both counted in octets; nothing when a place is inside a
character or behind the end, or the places are the wrong way round. -/
def cut? (t : Text) (start stop : Nat) : Option Text :=
  if start ≤ stop ∧ stop ≤ utf8Length t then
    match charsIn? start t, charsIn? stop t with
    | some i, some j => some ((t.take j).drop i)
    | _, _ => none
  else none

/-- A place where a text cannot be cut. -/
structure Miscut where
  /-- The text. -/
  text : Text
  /-- The number of octets before the place. -/
  place : Nat
deriving DecidableEq, Repr

/-- The parts of a text before and after a place. -/
def split (t : Text) (place : Nat) : Except Miscut (Text × Text) :=
  match cut? t 0 place, cut? t place (utf8Length t) with
  | some before, some after => .ok (before, after)
  | _, _ => .error ⟨t, place⟩

/-- The place of the first character of a kind. -/
def placeOf? (p : Char → Bool) : Text → Option Nat
  | [] => none
  | c :: t => if p c then some 0 else (placeOf? p t).map (c.utf8Size + ·)

/-- A part of a text is cut out of it by the octets before it and up to its end. -/
theorem cut?_append (a b c : Text) :
    cut? (a ++ b ++ c) (utf8Length a) (utf8Length (a ++ b)) = some b := by
  have start : charsIn? (utf8Length a) (a ++ b ++ c) = some a.length := by
    rw [List.append_assoc]
    exact charsIn?_utf8Length_append a (b ++ c)
  have stop := charsIn?_utf8Length_append (a ++ b) c
  rw [cut?, if_pos (by simp only [utf8Length_append]; omega), start, stop]
  simp only [List.take_left, List.drop_left]

/-- **A text is split at the place between two parts of it.** -/
theorem split_append (a b : Text) : split (a ++ b) (utf8Length a) = .ok (a, b) := by
  have before : cut? (a ++ b) 0 (utf8Length a) = some a := cut?_append [] a b
  have after : cut? (a ++ b) (utf8Length a) (utf8Length (a ++ b)) = some b := by
    simpa using cut?_append a b []
  rw [split, before, after]

variable {p : Char → Bool} {a t : Text}

theorem placeOf?_eq_none (h : ∀ c ∈ t, p c = false) : placeOf? p t = none := by
  induction t with
  | nil => rfl
  | cons c t ih =>
      obtain ⟨hc, ht⟩ := List.forall_mem_cons.1 h
      rw [placeOf?, if_neg (by simp [hc]), ih ht]
      rfl

/-- **The first character of a kind is behind all the others.** -/
theorem placeOf?_append {c : Char} (h : ∀ d ∈ a, p d = false) (hc : p c = true) (t : Text) :
    placeOf? p (a ++ c :: t) = some (utf8Length a) := by
  induction a with
  | nil => rw [List.nil_append, placeOf?, if_pos hc, utf8Length_nil]
  | cons d a ih =>
      obtain ⟨hd, ha⟩ := List.forall_mem_cons.1 h
      rw [List.cons_append, placeOf?, if_neg (by simp [hd]), ih ha, Option.map_some,
        utf8Length_cons]

/-- The place of the first character of a kind, or else the end of the text, is behind the
characters before it. -/
theorem getD_placeOf?_append (h : ∀ d ∈ a, p d = false) (ht : ∀ c ∈ t.head?, p c = true) :
    (placeOf? p (a ++ t)).getD (utf8Length (a ++ t)) = utf8Length a := by
  cases t with
  | nil =>
      rw [List.append_nil, placeOf?_eq_none h]
      rfl
  | cons c t =>
      rw [placeOf?_append h (ht c rfl)]
      rfl

end TranscriptSearch.Text
