/-!
# Text — lists of characters

A text is a list of characters, so that every law about cutting and joining text is a law of
lists.

* `runs`: the maximal runs of characters of one kind, of which words and tokens are made.
* `utf8Length`: the length of a text in octets.
* `charsIn?`: the characters before a place that is given in octets.
-/

namespace TranscriptSearch

/-- A text is a list of characters. -/
abbrev Text := List Char

namespace Text

/-- The number of octets that a text takes in UTF-8. -/
def utf8Length : Text → Nat
  | [] => 0
  | c :: t => c.utf8Size + utf8Length t

@[simp] theorem utf8Length_nil : utf8Length [] = 0 := rfl

@[simp] theorem utf8Length_cons (c : Char) (t : Text) :
    utf8Length (c :: t) = c.utf8Size + utf8Length t := rfl

@[simp] theorem utf8Length_append (s t : Text) :
    utf8Length (s ++ t) = utf8Length s + utf8Length t := by
  induction s with
  | nil => simp
  | cons c s ih => simp [ih, Nat.add_assoc]

/-- The number of characters in the first `n` octets of a text, or in all of it when it is
shorter; nothing when those octets end inside a character. -/
def charsIn? : Nat → Text → Option Nat
  | 0, _ => some 0
  | _ + 1, [] => some 0
  | n + 1, c :: rest =>
    if c.utf8Size ≤ n + 1 then (charsIn? (n + 1 - c.utf8Size) rest).map (· + 1) else none

@[simp] theorem charsIn?_zero (t : Text) : charsIn? 0 t = some 0 := by
  simp [charsIn?]

theorem charsIn?_utf8Length_append (s t : Text) :
    charsIn? (utf8Length s) (s ++ t) = some s.length := by
  induction s with
  | nil => simp
  | cons c s ih =>
    obtain ⟨n, hn⟩ : ∃ n, utf8Length (c :: s) = n + 1 :=
      Nat.exists_eq_add_one.2 (Nat.lt_of_lt_of_le c.utf8Size_pos (by simp))
    rw [hn, List.cons_append, charsIn?, ← hn]
    simp [ih]

/-- Whether `needle` stands somewhere in a text. -/
def holds (needle : Text) : Text → Bool
  | [] => needle.isEmpty
  | c :: rest => needle.isPrefixOf (c :: rest) || holds needle rest

/-- A run that may be empty, put before the runs that follow it. -/
def consRun : Text → List Text → List Text
  | [], later => later
  | c :: run, later => (c :: run) :: later

/-- The run that a text opens with, possibly empty, and the runs after it. -/
def splitRun (p : Char → Bool) : Text → Text × List Text
  | [] => ([], [])
  | c :: rest =>
    match p c, splitRun p rest with
    | true, (run, later) => (c :: run, later)
    | false, (run, later) => ([], consRun run later)

/-- The maximal runs of characters that satisfy `p`, in order. -/
def runs (p : Char → Bool) (t : Text) : List Text := consRun (splitRun p t).1 (splitRun p t).2

end Text

end TranscriptSearch
