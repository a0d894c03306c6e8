import TranscriptSearch.Text.Basic

/-!
# Json — values

A value as its text gives it. Numbers keep their digits, and members of an object keep their
order and repetitions, because readers of fields decide on both. Two constructors stand for
text that is no value: a string that is not Unicode text, which a reader may pass over but not
take, and the place where the text stopped being a value at all.

* `Json.isWhole`: a value without such a place.
-/

namespace TranscriptSearch

/-- A value read from a text. -/
inductive Json where
  /-- The word for no value. -/
  | null
  /-- A truth value. -/
  | bool (b : Bool)
  /-- A number, as it is written. -/
  | number (written : Text)
  /-- A string. -/
  | string (t : Text)
  /-- A string that holds half a surrogate pair or octets that are no characters. -/
  | brokenString
  /-- Elements in order. -/
  | array (elements : List Json)
  /-- Members in order, with their keys; the key of a broken string is `none`. -/
  | object (members : List (Option Text × Json))
  /-- The place where the text stopped being a value. -/
  | fault
deriving Repr

namespace Json

mutual

/-- Whether the text of a value was read to its end. -/
def isWhole : Json → Bool
  | .array es  => areWhole es
  | .object ms => membersWhole ms
  | .fault     => false
  | _          => true

/-- Whether all elements are whole. -/
def areWhole : List Json → Bool
  | []      => true
  | e :: es => isWhole e && areWhole es

/-- Whether all members are whole. -/
def membersWhole : List (Option Text × Json) → Bool
  | []           => true
  | (_, v) :: ms => isWhole v && membersWhole ms

end

/-- A text read as a value, and whether nothing but blanks came after the value. -/
structure Document where
  /-- The value. -/
  value : Json
  /-- Whether the text ended with the value. -/
  ends : Bool
deriving Repr

end Json

end TranscriptSearch
