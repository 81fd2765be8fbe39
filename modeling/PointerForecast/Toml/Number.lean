/-
**Numbers and moments in TOML.**

An underscore may stand between two digits. A decimal integer has no leading zero and may have a
sign; hexadecimal, octal and binary ones have no sign. Integers fit a signed 64-bit word. A number
with a fraction or an exponent is the nearest double, and one too large for a double is refused.

A moment is a date, a time, or a date with a time and perhaps an offset. Only whether it exists
matters here: no setting is one.

Each reader takes the longest beginning of the text that is of its kind. It refuses for good a text
that goes on like one and breaks off: after an underscore, a point, the mark of an exponent, or the
first separator of a date, a time or an offset.
-/

import PointerForecast.Digits
import PointerForecast.Toml.Fault

namespace PointerForecast.Toml

/-! ### Digits -/

/-- The text after a given character. -/
def after? (c : Char) : List Char → Option (List Char)
  | first :: rest => if first == c then some rest else none
  | [] => none

/-- Reads the digits that follow a digit; what was read before stands latest first. -/
def moreDigits (isDigit : Char → Bool) : (before : List Char) → Reader (List Char)
  | before, '_' :: c :: rest =>
    if isDigit c then moreDigits isDigit (c :: before) rest else .error (malformedAt (c :: rest))
  | _, ['_'] => .error (malformedAt [])
  | before, c :: rest =>
    if isDigit c then moreDigits isDigit (c :: before) rest else .ok (before.reverse, c :: rest)
  | before, [] => .ok (before.reverse, [])

/-- Reads a row of digits. -/
def digitRow (isDigit : Char → Bool) : Reader (List Char)
  | c :: rest => if isDigit c then moreDigits isDigit [c] rest else .error (absentAt (c :: rest))
  | [] => .error (absentAt [])

/-- Reads the digits of a decimal integer: a zero stands alone. -/
def decimal : Reader (List Char)
  | '0' :: rest => .ok (['0'], rest)
  | text => digitRow Char.isDigit text

/-- The number that a row of digits denotes. -/
def natural (base : Nat) (digits : List Char) : Nat := ofDigits base (digits.filterMap digitValue?)

/-! ### Integers -/

/-- The integer, if it fits a signed 64-bit word. -/
def inWord? (value : Int) : Option Int :=
  if Int64.minValue.toInt ≤ value ∧ value ≤ Int64.maxValue.toInt then some value else none

/-- Reads an integer in a base after its mark. -/
def ofBase (base : Nat) (text : List Char) : Except Refusal (Read Int) := settled do
  let (digits, rest) ← digitRow (fun c => (digitValue? c).any (· < base)) text
  return (← orMalformed text (inWord? (natural base digits)), rest)

/-- Reads an integer. -/
def integerValue : Reader Int
  | '0' :: 'x' :: rest => ofBase 16 rest
  | '0' :: 'o' :: rest => ofBase 8 rest
  | '0' :: 'b' :: rest => ofBase 2 rest
  | text => do
    let (negative, unsigned) := takeSign text
    let (digits, rest) ← decimal unsigned
    return (← orMalformed text (inWord? (signed negative (natural 10 digits))), rest)

/-! ### Other numbers -/

/-- Reads a fraction: a point and digits. -/
def fraction (text : List Char) : Except Refusal (Read (List Char)) := do
  settled (digitRow Char.isDigit (← orAbsent text (after? '.' text)))

/-- Reads an exponent: its mark, perhaps a sign, and digits. -/
def exponent (text : List Char) : Except Refusal (Read Int) := do
  let rest ← orAbsent text ((after? 'e' text).or (after? 'E' text))
  let (negative, unsigned) := takeSign rest
  let (digits, rest) ← settled (digitRow Char.isDigit unsigned)
  return (signed negative (natural 10 digits), rest)

/-- The double nearest to a number of the given digits and power of ten. -/
def nearestDouble (digits : Nat) (exponent : Int) : Float :=
  Float.ofScientific digits (exponent < 0) exponent.natAbs

/-- Reads a number with a fraction or an exponent. -/
def fractional (text : List Char) : Except Refusal (Read Float) := do
  let (negative, unsigned) := takeSign text
  let (whole, rest) ← decimal unsigned
  let (places?, rest) ← optional fraction rest
  let (exponent?, rest) ← optional exponent rest
  if places?.isNone && exponent?.isNone then throw (absentAt text)
  else
    let places := places?.getD []
    let size := nearestDouble (natural 10 (whole ++ places)) (exponent?.getD 0 - places.length)
    if negative then return (-size, rest)
    else if size.isInf then throw (malformedAt text)
    else return (size, rest)

/-- The text after a given word. -/
def afterWord? : (word : List Char) → List Char → Option (List Char)
  | [], text => some text
  | c :: word, text => (after? c text).bind (afterWord? word)

/-- Reads a word that stands for a value. -/
def word {β : Type} (name : String) (value : β) (text : List Char) : Except Refusal (Read β) :=
  (value, ·) <$> orAbsent text (afterWord? name.toList text)

/-- Reads a number that is not an integer. -/
def floatValue (text : List Char) : Except Refusal (Read Float) :=
  let (negative, unsigned) := takeSign text
  otherwise (fractional text)
    (otherwise (word "inf" (if negative then -1.0 / 0.0 else 1.0 / 0.0) unsigned)
      (word "nan" (0.0 / 0.0) unsigned))

/-! ### Moments -/

/-- Reads a number of so many digits, if it lies within some bounds. -/
def field (length low high : Nat) (text : List Char) : Except Refusal (Read Nat) := do
  let digits ← orAbsent text (digits? 10 (text.take length))
  let value := ofDigits 10 digits
  if digits.length = length ∧ low ≤ value ∧ value ≤ high then return (value, text.drop length)
  else throw (absentAt text)

/-- The number of days in a month. -/
def daysInMonth (year month : Nat) : Nat :=
  if month = 2 then
    if year % 4 = 0 ∧ (year % 100 ≠ 0 ∨ year % 400 = 0) then 29 else 28
  else if month = 4 ∨ month = 6 ∨ month = 9 ∨ month = 11 then 30
  else 31

/-- The text after a date. -/
def afterDate (text : List Char) : Except Refusal (List Char) := do
  let (year, rest) ← field 4 0 9999 text
  let rest ← orAbsent rest (after? '-' rest)
  settled do
    let (month, rest) ← field 2 1 12 rest
    let rest ← orMalformed rest (after? '-' rest)
    let (_, rest) ← field 2 1 (daysInMonth year month) rest
    return rest

/-- The text after a part of a second: a point and digits, or nothing. -/
def afterSecondPart : List Char → List Char
  | '.' :: c :: rest => if c.isDigit then rest.dropWhile Char.isDigit else '.' :: c :: rest
  | text => text

/-- The text after a time of day. -/
def afterTime (text : List Char) : Except Refusal (List Char) := do
  let (_, rest) ← field 2 0 23 text
  let rest ← orAbsent rest (after? ':' rest)
  settled do
    let (_, rest) ← field 2 0 59 rest
    let rest ← orMalformed rest (after? ':' rest)
    let (_, rest) ← field 2 0 60 rest
    return afterSecondPart rest

/-- The text after an offset, or after nothing. -/
def afterOffset : List Char → Except Refusal (List Char)
  | 'Z' :: rest => .ok rest
  | 'z' :: rest => .ok rest
  | sign :: rest =>
    if sign == '+' || sign == '-' then settled do
      let (_, rest) ← field 2 0 23 rest
      let rest ← orMalformed rest (after? ':' rest)
      let (_, rest) ← field 2 0 59 rest
      return rest
    else .ok (sign :: rest)
  | [] => .ok []

/-- Holds of the characters that divide a date from a time. -/
def isDivider (c : Char) : Bool := c == 'T' || c == 't' || c == ' '

/-- The text after the time that follows a date, with its offset. -/
def afterTimeOfDate : List Char → Except Refusal (List Char)
  | divider :: rest =>
    if isDivider divider then do afterOffset (← afterTime rest)
    else .error (absentAt (divider :: rest))
  | [] => .error (absentAt [])

/-- The text after a date, perhaps with a time. -/
def afterDateAndTime (text : List Char) : Except Refusal (List Char) := do
  let rest ← afterDate text
  otherwise (afterTimeOfDate rest) (.ok rest)

/-- The text after a moment. -/
def afterMoment (text : List Char) : Except Refusal (List Char) :=
  otherwise (afterDateAndTime text) (afterTime text)

end PointerForecast.Toml
