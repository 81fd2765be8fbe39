/-
**What is wrong with a value that is read.**

A document is read from its beginning to its end, and the first value that does not fit ends the
reading. A name or a text that does not fit is repeated to the user: a name as it is, a text in
quotes with its control characters escaped (`quoted`).
-/

namespace PointerForecast

/-- Why a value does not fit. -/
inductive Misreading where
  /-- The document is not written by the rules of its format. -/
  | malformed
  /-- A name that is none of those that are known. -/
  | unknownName (name : String)
  /-- A text where something else is expected. -/
  | unexpectedText (text : String)
  /-- Any other value that is not what is expected. -/
  | unexpectedValue
  /-- A record lacks a field that has no usual value. -/
  | missingField (name : String)
  /-- A record has a field twice. -/
  | repeatedField (name : String)
deriving DecidableEq, Repr

/-- A character as it stands between quotes. -/
def quotedChar (c : Char) : List Char :=
  match c with
  | '"' => ['\\', '"']
  | '\\' => ['\\', '\\']
  | '\t' => ['\\', 't']
  | '\n' => ['\\', 'n']
  | '\r' => ['\\', 'r']
  | '\x00' => ['\\', '0']
  | c =>
    if c.toNat < 0x20 || c.toNat = 0x7f then
      ['\\', 'u', '\x7b'] ++ Nat.toDigits 16 c.toNat ++ ['\x7d']
    else [c]

/-- A text in quotes. Characters outside ASCII stand for themselves. -/
def quoted (text : String) : String :=
  String.ofList ('"' :: text.toList.flatMap quotedChar ++ ['"'])

/-- The text shown for a value that does not fit. -/
def Misreading.message : Misreading → String
  | .malformed => "malformed document"
  | .unknownName name => "unknown name `" ++ name ++ "`"
  | .unexpectedText text => "unexpected text " ++ quoted text
  | .unexpectedValue => "unexpected value"
  | .missingField name => "missing field `" ++ name ++ "`"
  | .repeatedField name => "repeated field `" ++ name ++ "`"

end PointerForecast
