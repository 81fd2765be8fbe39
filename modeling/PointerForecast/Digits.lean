/-
**Digits.** The value of a digit and of a row of digits, in any base up to sixteen.
-/

namespace PointerForecast

/-- The value of a hexadecimal digit. -/
def digitValue? (c : Char) : Option Nat :=
  if c.isDigit then some (c.toNat - '0'.toNat)
  else if 'a' ≤ c && c ≤ 'f' then some (c.toNat - 'a'.toNat + 10)
  else if 'A' ≤ c && c ≤ 'F' then some (c.toNat - 'A'.toNat + 10)
  else none

/-- The number that digits denote in a base. -/
def ofDigits (base : Nat) (digits : List Nat) : Nat :=
  digits.foldl (fun value digit => value * base + digit) 0

/-- The digits of a text in a base, unless there is none or another character. -/
def digits? (base : Nat) (text : List Char) : Option (List Nat) :=
  if text.isEmpty then none
  else text.mapM fun c => (digitValue? c).filter (· < base)

/-- The number that a text denotes in a base. -/
def natural? (base : Nat) (text : List Char) : Option Nat := (digits? base text).map (ofDigits base)

/-- The sign of a number, and the text after it; a number without a sign is positive. -/
def takeSign : List Char → Bool × List Char
  | '-' :: rest => (true, rest)
  | '+' :: rest => (false, rest)
  | text => (false, text)

/-- An integer of the given sign and size. -/
def signed (negative : Bool) (size : Nat) : Int := if negative then -size else size

end PointerForecast
