import TranscriptSearch.Number.Decimal
import TranscriptSearch.Text.Blank

/-!
# Session keys

A session is named by its year and its number within the year. Keys are ordered by year, then
by number.

* `SessionKey.text`: year and number with a hyphen between.
* `SessionKey.parse?`: reads this text, with plus signs, leading zeros and outer blanks allowed.
-/

namespace TranscriptSearch

open Text Number

/-- Year and number of a session. -/
structure SessionKey where
  /-- The year of the conference. -/
  year : UInt32
  /-- The number of the session within the year. -/
  sessionId : UInt32
deriving DecidableEq, Repr, Inhabited

namespace SessionKey

instance : Ord SessionKey where
  compare := compareLex (compareOn year) (compareOn sessionId)

instance : Std.TransOrd SessionKey :=
  inferInstanceAs (Std.TransCmp (compareLex (compareOn year) (compareOn sessionId)))

instance : Std.LawfulEqOrd SessionKey where
  compare_self {a} := by
    show (compare a.year a.year).then (compare a.sessionId a.sessionId) = .eq
    simp
  eq_of_compare {a b} h := by
    have h : (compare a.year b.year).then (compare a.sessionId b.sessionId) = .eq := h
    obtain ⟨hy, hs⟩ := Ordering.then_eq_eq.1 h
    cases a; cases b
    have := Std.LawfulEqCmp.eq_of_compare hy
    have := Std.LawfulEqCmp.eq_of_compare hs
    simp_all

/-- A key as text. -/
def text (k : SessionKey) : Text := decimal k.year.toNat ++ ['-'] ++ decimal k.sessionId.toNat

/-- The number of 32 bits that a text writes. -/
def part? (t : Text) : Option UInt32 := (natural? UInt32.size t).map .ofNat

/-- The key that a text writes. The text is cut at its first hyphen. -/
def parse? (t : Text) : Option SessionKey :=
  match (trim t).span (· != '-') with
  | (year, _ :: number) => do return ⟨← part? year, ← part? number⟩
  | (_, []) => none

/-- What is said of a text that is no key. -/
def parseError (t : Text) : Text :=
  "invalid session key '".toList ++ t ++ "': expected YEAR-SESSION, e.g. 2015-101".toList

end SessionKey

end TranscriptSearch
