/-
**The tokens of a JSON text.**

White space is a space, a tab, a line feed or a carriage return. A string may hold any character but
a control character; an escape may denote half of a surrogate pair, and a half that stands alone
leaves the string without a text, which is a fault only where the text is asked for.

Every text has tokens: from the first place where no token stands, the rest of the text is one token
that fits nowhere, `stray`.
-/

import PointerForecast.Json.Number

namespace PointerForecast

/-- A token of a JSON text. -/
inductive JsonToken where
  /-- The beginning of an array. -/
  | openArray
  /-- The end of an array. -/
  | closeArray
  /-- The beginning of an object. -/
  | openObject
  /-- The end of an object. -/
  | closeObject
  /-- What separates items. -/
  | comma
  /-- What separates a key from its value. -/
  | colon
  /-- Null, true or false. -/
  | word (word : Option Bool)
  /-- A number. -/
  | number (numeral : JsonNumeral)
  /-- A string, with its text if it has one. -/
  | string (text : Option String)
  /-- The rest of the text, at whose beginning no token stands. -/
  | stray

namespace JsonToken

/-! ### Strings -/

/-- The code of a simple escape. -/
def escape? : Char → Option Nat
  | '"' => some 0x22
  | '\\' => some 0x5c
  | '/' => some 0x2f
  | 'b' => some 0x08
  | 'f' => some 0x0c
  | 'n' => some 0x0a
  | 'r' => some 0x0d
  | 't' => some 0x09
  | _ => none

/-- Reads a string after its opening quote: the codes of its characters, latest first, and what
follows the closing quote. -/
def stringCodes? : List Char → List Nat → Option (List Nat × List Char)
  | '"' :: rest, codes => some (codes, rest)
  | '\\' :: 'u' :: a :: b :: c :: d :: rest, codes =>
    match natural? 16 [a, b, c, d] with
    | some code => stringCodes? rest (code :: codes)
    | none => none
  | '\\' :: c :: rest, codes =>
    match escape? c with
    | some code => stringCodes? rest (code :: codes)
    | none => none
  | c :: rest, codes =>
    if c.toNat < 0x20 || c == '\\' then none else stringCodes? rest (c.toNat :: codes)
  | [], _ => none

theorem length_stringCodes? {text rest : List Char} {codes result : List Nat}
    (read : stringCodes? text codes = some (result, rest)) : rest.length < text.length := by
  fun_induction stringCodes? text codes <;> simp_all <;> omega

/-- Holds of the first half of a surrogate pair. -/
def isHighSurrogate (code : Nat) : Bool := 0xd800 ≤ code && code < 0xdc00

/-- Holds of the second half of a surrogate pair. -/
def isLowSurrogate (code : Nat) : Bool := 0xdc00 ≤ code && code < 0xe000

/-- The characters that codes denote, unless half of a surrogate pair stands alone. -/
def joinSurrogates? : List Nat → List Char → Option (List Char)
  | [], text => some text.reverse
  | high :: low :: rest, text =>
    if isHighSurrogate high && isLowSurrogate low then
      let code := 0x10000 + (high - 0xd800) * 0x400 + (low - 0xdc00)
      joinSurrogates? rest (Char.ofNat code :: text)
    else if isHighSurrogate high || isLowSurrogate high then none
    else joinSurrogates? (low :: rest) (Char.ofNat high :: text)
  | [code], text =>
    if isHighSurrogate code || isLowSurrogate code then none
    else some (Char.ofNat code :: text).reverse

/-! ### The scan -/

/-- Holds of white space. -/
def isBlank (c : Char) : Bool := c == ' ' || c == '\t' || c == '\n' || c == '\r'

/-- The token of a punctuation character. -/
def punctuation? : Char → Option JsonToken
  | '[' => some openArray
  | ']' => some closeArray
  | '{' => some openObject
  | '}' => some closeObject
  | ',' => some comma
  | ':' => some colon
  | _ => none

/-- The token of a word. -/
def ofWord? (text : List Char) : Option JsonToken :=
  match String.ofList text with
  | "null" => some (word none)
  | "true" => some (word (some true))
  | "false" => some (word (some false))
  | _ => none

/-- Reads the tokens of a text, after those read before, latest first. -/
def scan : List Char → List JsonToken → List JsonToken
  | [], tokens => tokens.reverse
  | c :: rest, tokens =>
    if isBlank c then scan rest tokens
    else match punctuation? c with
    | some token => scan rest (token :: tokens)
    | none =>
      if c == '"' then
        match read : stringCodes? rest [] with
        | some (codes, after) =>
          have := length_stringCodes? read
          let text := (joinSurrogates? codes.reverse []).map String.ofList
          scan after (string text :: tokens)
        | none => (stray :: tokens).reverse
      else if JsonNumeral.isNumeric c then
        match JsonNumeral.ofChars? (c :: rest.takeWhile JsonNumeral.isNumeric) with
        | some numeral => scan (rest.dropWhile JsonNumeral.isNumeric) (number numeral :: tokens)
        | none => (stray :: tokens).reverse
      else
        match ofWord? (c :: rest.takeWhile Char.isAlpha) with
        | some token => scan (rest.dropWhile Char.isAlpha) (token :: tokens)
        | none => (stray :: tokens).reverse
termination_by text => text.length
decreasing_by
  all_goals simp only [List.length_cons]
  all_goals first
    | omega
    | exact Nat.lt_succ_of_le (List.dropWhile_sublist _).length_le

end JsonToken

end PointerForecast
