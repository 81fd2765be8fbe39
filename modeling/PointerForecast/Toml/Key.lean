/-
**Keys in TOML.**

A key has parts with points between them. A part is bare, if it has only letters, digits, `_` and
`-`, or a string on one line. A key of `maxDepth` parts or more is refused, and so is a text that
begins with no key; neither is refused for good, since a table in braces may end there.

* `key` — reads a key.
* `writtenKey` — **a part of a key as one would write it**: bare where it can be, else between
  double quotes, unless it has a double quote or a backslash and can stand between single quotes.
-/

import PointerForecast.Toml.Text

namespace PointerForecast.Toml

/-- Neither arrays and tables in braces nor the parts of a key may be this many. -/
def maxDepth : Nat := 80

/-- Holds of the characters of a bare key. -/
def isKeyChar (c : Char) : Bool := c.isAlphanum || c == '_' || c == '-'

/-! ### Reading -/

/-- Reads one part of a key. -/
def keyPart (text : List Char) : Except Refusal (Read String) :=
  match text with
  | '"' :: _ => quotedLine text
  | '\'' :: _ => quotedLine text
  | _ =>
    let part := text.takeWhile isKeyChar
    if part.isEmpty then .error (absentAt text)
    else .ok (String.ofList part, text.dropWhile isKeyChar)

/-- Reads the parts of a key, with blanks around each. A point without a part after it is left. -/
def keyParts : (fuel : Nat) → Reader (List String)
  | 0, text => .error (malformedAt text)
  | fuel + 1, text => do
    let (part, rest) ← keyPart (skipBlank text)
    match skipBlank rest with
    | '.' :: more => do
      match ← optional (keyParts fuel) more with
      | (some parts, rest) => return (part :: parts, rest)
      | (none, _) => return ([part], '.' :: more)
    | rest => return ([part], rest)

/-- Reads a key: the path to its last part, and that part. -/
def key (size : Nat) (text : List Char) : Except Refusal (Read (List String × String)) := do
  let (parts, rest) ← keyParts size text
  if maxDepth ≤ parts.length then throw (absentAt text)
  else return ((parts.dropLast, ← orAbsent text parts.getLast?), rest)

/-! ### Writing -/

/-- A number below sixteen as a hexadecimal digit. -/
def hexDigit (n : Nat) : Char := (Nat.digitChar n).toUpper

/-- A character as it is written between double quotes. -/
def escapedChar (c : Char) : List Char :=
  match c with
  | '\x08' => ['\\', 'b']
  | '\t' => ['\\', 't']
  | '\n' => ['\\', 'n']
  | '\x0c' => ['\\', 'f']
  | '\r' => ['\\', 'r']
  | '"' => ['\\', '"']
  | '\\' => ['\\', '\\']
  | c =>
    if isTextChar c then [c]
    else ['\\', 'u', '0', '0', hexDigit (c.toNat / 16), hexDigit (c.toNat % 16)]

/-- Holds of a text that can stand between single quotes. -/
def isLiteral (text : List Char) : Bool := text.all fun c => isTextChar c && c != '\''

/-- A part of a key as one would write it. -/
def writtenKey (part : String) : String :=
  let text := part.toList
  if !text.isEmpty && text.all isKeyChar then part
  else if text.any (fun c => c == '"' || c == '\\') && isLiteral text then "'" ++ part ++ "'"
  else String.ofList ('"' :: text.flatMap escapedChar ++ ['"'])

end PointerForecast.Toml
