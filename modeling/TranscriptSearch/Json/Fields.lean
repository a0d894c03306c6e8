import TranscriptSearch.Json.Number

/-!
# Json — records

A record is written as an object with a member for each field, in any order and among members
of other names, or as an array of its fields in their order. A field may be missing, but none
may be given twice, and an array may not be longer than the record.

* `fields`: the fields of a record in the order of the text, up to the first fault.
* `Fields.get?`: the value of a field.
* `isPlain`: whether every part of a value can be taken as it is, which a field that collects
  unknown members asks for.
-/

namespace TranscriptSearch.Json

/-- The fields of a record in the order of the text, each with its position in the record. -/
structure Fields where
  /-- The fields before the first fault. -/
  entries : List (Nat × Json)
  /-- Whether there was no fault. -/
  isSound : Bool
deriving Repr

namespace Fields

/-- No fields, and a fault. -/
def none : Fields := ⟨[], false⟩

/-- One more field in front. -/
def cons (i : Nat) (v : Json) (f : Fields) : Fields := ⟨(i, v) :: f.entries, f.isSound⟩

/-- The fields among members, when the fields at the positions `seen` came before. A member of
another name is passed over if its value passes. -/
def ofMembers (names : List Text) (passes : Json → Bool) :
    (seen : List Nat) → List (Option Text × Json) → Fields
  | _, [] => ⟨[], true⟩
  | _, (Option.none, _) :: _ => none
  | seen, (some k, v) :: rest =>
    match names.idxOf? k with
    | some i =>
      if seen.contains i then none else (ofMembers names passes (i :: seen) rest).cons i v
    | Option.none => if passes v then ofMembers names passes seen rest else none

/-- The fields of an array for a record of `n` fields, of which `i` came before. -/
def ofElements (n : Nat) : (i : Nat) → List Json → Fields
  | _, [] => ⟨[], true⟩
  | i, v :: rest => if i < n then (ofElements n (i + 1) rest).cons i v else none

/-- The value of the field at a position. -/
def get? (f : Fields) (i : Nat) : Option Json := f.entries.lookup i

end Fields

/-- The fields of a record with the given names. -/
def fields (names : List String) : Json → Fields
  | .object ms => .ofMembers (names.map String.toList) isWhole [] ms
  | .array es  => .ofElements names.length 0 es
  | _          => .none

/-- The fields of a record without a fault. -/
def soundFields? (names : List String) (v : Json) : Option Fields :=
  if (fields names v).isSound then some (fields names v) else none

/-- A string. -/
def text? : Json → Option Text
  | .string t => some t
  | _         => none

/-- A string or no value. -/
def optionalText? : Json → Option (Option Text)
  | .null     => some none
  | .string t => some (some t)
  | _         => none

/-- The elements of an array, each read. -/
def listOf (read : Json → Option α) : Json → Option (List α)
  | .array es => es.mapM read
  | _         => none

mutual

/-- Whether a value nests at most `depth` arrays and objects in one another and holds neither a
fault, nor a broken string, nor a number too large for binary64. -/
def isPlain (depth : Nat) : Json → Bool
  | .number t     => (writtenBinary64? t).isSome
  | .brokenString => false
  | .fault        => false
  | .array es     => 0 < depth && arePlain (depth - 1) es
  | .object ms    => 0 < depth && membersPlain (depth - 1) ms
  | _             => true

/-- Whether all elements are plain. -/
def arePlain (depth : Nat) : List Json → Bool
  | []      => true
  | e :: es => isPlain depth e && arePlain depth es

/-- Whether all members are plain. -/
def membersPlain (depth : Nat) : List (Option Text × Json) → Bool
  | []           => true
  | (k, v) :: ms => k.isSome && isPlain depth v && membersPlain depth ms

end

end TranscriptSearch.Json
