import TranscriptSearch.Number.Decimal
import TranscriptSearch.Toml.Basic

/-!
# Toml — scalars without quotes

Truth values, whole numbers in four bases, numbers with a point or an exponent, and dates and
times. Digits may be grouped by single underscores. A text can have the look of a whole number
and yet write none: it is a fault only where its value is asked for.

* `scalar?`: the value that a text without quotes writes.
-/

namespace TranscriptSearch.Toml

open Number

/-- Digits with the underscores between them taken out. -/
def ungrouped? (isOne : Char → Bool) : Text → Option Text
  | [] => none
  | [c] => if isOne c then some [c] else none
  | c :: '_' :: rest => if isOne c then (ungrouped? isOne rest).map (c :: ·) else none
  | c :: rest => if isOne c then (ungrouped? isOne rest).map (c :: ·) else none

/-- The value of a digit of any base up to sixteen. -/
def anyDigit (c : Char) : Nat :=
  if isDigit c then c.toNat - 48
  else if 'a' ≤ c ∧ c ≤ 'f' then c.toNat - 87
  else if 'A' ≤ c ∧ c ≤ 'F' then c.toNat - 55
  else 16

/-- Whether every underscore stands between two characters that are digits in some base. -/
def isGrouped : Text → Bool
  | [] => true
  | c :: '_' :: rest => anyDigit c < 16 && rest.head?.any (anyDigit · < 16) && isGrouped rest
  | c :: rest => c != '_' && isGrouped rest

/-- The natural number that digits of a base write, if there are any and no other characters. -/
def digitsInBase? (base : Nat) (t : Text) : Option Nat :=
  if t.isEmpty || t.any (base ≤ anyDigit ·) then none
  else some (t.foldl (fun n c => base * n + anyDigit c) 0)

/-- A text without its underscores. -/
def withoutUnderscores (t : Text) : Text := t.filter (· != '_')

/-- What the text after the mark of a base has for a value: nothing at all when it does not look
like a whole number. Without digits it still looks like one. -/
def inBase? (base : Nat) (t : Text) : Option (Option Nat) :=
  let ds := withoutUnderscores t
  if isGrouped t && ds.all (anyDigit · < base) then some (digitsInBase? base ds) else none

/-- Decimal digits that have no needless zero in front. -/
def wholeDigits? (t : Text) : Option Text := do
  let ds ← ungrouped? isDigit t
  guard (ds.length = 1 || ds.head? != some '0')
  return ds

/-- A text without its sign, and whether the sign is a minus. -/
def unsigned : Text → Bool × Text
  | '-' :: t => (true, t)
  | '+' :: t => (false, t)
  | t        => (false, t)

/-- What a text without a sign has for a value in base ten: nothing at all when it does not look
like a whole number. After an underscore anything looks like one that is no sign of a number with
a point or an exponent. -/
def inTen? (t : Text) : Option (Option Nat) :=
  match t.dropWhile isDigit with
  | [] => (wholeDigits? t).map fun ds => some (digitsValue ds)
  | '_' :: rest =>
    if t.head? != some '0' && isGrouped t && !rest.any [' ', '.', 'e', 'E'].contains then
      some (digitsInBase? 10 (withoutUnderscores t))
    else none
  | _ => none

/-- What a text has for a value as a whole number: nothing at all when it does not look like one,
no value when it only does so. -/
def integer? : Text → Option (Option Int)
  | '0' :: 'x' :: t => (inBase? 16 t).map (·.map Int.ofNat)
  | '0' :: 'o' :: t => (inBase? 8 t).map (·.map Int.ofNat)
  | '0' :: 'b' :: t => (inBase? 2 t).map (·.map Int.ofNat)
  | t =>
    match unsigned t with
    | (true, t)  => (inTen? t).map (·.map fun n => -(n : Int))
    | (false, t) => (inTen? t).map (·.map Int.ofNat)

/-- The number nearest to `digits * 10 ^ exponent`, if it is not too large. -/
def magnitude? (digits : Text) (exponent : Int) : Option Binary64 :=
  let ds := digits.dropWhile (· == '0')
  if ds.isEmpty || ds.length + exponent < -400 then some .zero
  else if 400 < ds.length + exponent then none
  else
    let x := Binary64.ofDecimal false (digitsValue ds) exponent
    if x.isFinite then some x else none

/-- An exponent after its mark. -/
def exponent? (t : Text) : Option Int :=
  match unsigned t with
  | (true, t)  => (ungrouped? isDigit t).map fun ds => -(digitsValue ds : Int)
  | (false, t) => (ungrouped? isDigit t).map fun ds => (digitsValue ds : Int)

/-- The magnitude that digits with a point, an exponent or both write: nothing at all when they
write no number, no value when the number is too large. -/
def floatMagnitude? (t : Text) : Option (Option Binary64) := do
  let mantissa := t.takeWhile fun c => c != 'e' && c != 'E'
  let power := t.dropWhile fun c => c != 'e' && c != 'E'
  let whole ← wholeDigits? (mantissa.takeWhile (· != '.'))
  let places ← match mantissa.dropWhile (· != '.') with
    | [] => some []
    | _ :: ds => ungrouped? isDigit ds
  let exponent ← match power with
    | [] => some 0
    | _ :: ds => exponent? ds
  guard (!(places.isEmpty && power.isEmpty))
  return magnitude? (whole ++ places) (exponent - places.length)

/-- The number with a point or an exponent that a text writes. -/
def float? (t : Text) : Option Toml :=
  let (isNegative, u) := unsigned t
  if u = "inf".toList then some (.float (some (.infinity isNegative)))
  else if u = "nan".toList then some (.float (some .nan))
  else (floatMagnitude? u).map fun x =>
    .float (x.map fun y => if isNegative then y.negate else y)

/-! ### Dates and times -/

/-- The number of `n` digits, and the text after them. -/
def takeNumber? (n : Nat) (t : Text) : Option (Nat × Text) := do
  let ds := t.take n
  guard (ds.length = n && ds.all isDigit)
  return (digitsValue ds, t.drop n)

/-- The text after a character. -/
def skip? (c : Char) : Text → Option Text
  | d :: rest => if c = d then some rest else none
  | [] => none

/-- The number of days of a month. -/
def daysIn (year month : Nat) : Nat :=
  if month = 2 then
    if year % 4 = 0 ∧ (year % 100 ≠ 0 ∨ year % 400 = 0) then 29 else 28
  else if month = 4 ∨ month = 6 ∨ month = 9 ∨ month = 11 then 30 else 31

/-- The text after a date. -/
def afterDate? (t : Text) : Option Text := do
  let (year, t) ← takeNumber? 4 t
  let (month, t) ← takeNumber? 2 (← skip? '-' t)
  let (day, t) ← takeNumber? 2 (← skip? '-' t)
  guard (1 ≤ month && month ≤ 12 && 1 ≤ day && day ≤ daysIn year month)
  return t

/-- The text after the parts of a second. -/
def afterParts? : Text → Option Text
  | '.' :: t => if (t.head?.any isDigit) then some (t.dropWhile isDigit) else none
  | t => some t

/-- The text after a time of day, whose seconds may be left out. -/
def afterTime? (t : Text) : Option Text := do
  let (hour, t) ← takeNumber? 2 t
  let (minute, t) ← takeNumber? 2 (← skip? ':' t)
  guard (hour ≤ 23 && minute ≤ 59)
  match skip? ':' t with
  | none => some t
  | some t => do
    let (second, t) ← takeNumber? 2 t
    guard (second ≤ 60)
    afterParts? t

/-- Whether a text is the distance of a local time from the common time, or nothing. -/
def isOffset : Text → Bool
  | [] | ['Z'] | ['z'] => true
  | c :: t =>
    (c == '+' || c == '-') &&
      match takeNumber? 2 t with
      | some (hour, ':' :: t) =>
        match takeNumber? 2 t with
        | some (minute, []) => hour ≤ 23 && minute ≤ 59
        | _ => false
      | _ => false

/-- Whether a text is a date, a time of day or both. -/
def isDatetime (t : Text) : Bool :=
  match afterDate? t with
  | some [] => true
  | some (c :: t) => (c == 'T' || c == 't' || c == ' ') && (afterTime? t).any isOffset
  | none => (afterTime? t) == some []

/-- The value that a text without quotes writes. -/
def scalar? (t : Text) : Option Toml :=
  if t = "true".toList then some (.boolean true)
  else if t = "false".toList then some (.boolean false)
  else
    match integer? t with
    | some n => some (.integer n)
    | none => if isDatetime t then some .datetime else float? t

end TranscriptSearch.Toml
