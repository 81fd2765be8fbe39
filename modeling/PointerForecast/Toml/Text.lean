/-
**Comments, line ends and strings in TOML.**

A string is a basic one with escapes or a literal one without, on one line or on several. A string
on several lines drops a line end right after its opening, may hold one or two quotes in a row, and
up to two of them right before its closing, which ends the string even if more quotes follow; a line
end in it is a line feed, however it is written.

A reader that fails tells the place up to which it could follow the text. The character after a
backslash is always followed, even where it begins no escape. A text that begins with a quote can
only be a string, so these readers refuse for good.
-/

import PointerForecast.Digits
import PointerForecast.Toml.Fault

namespace PointerForecast.Toml

/-! ### Lines and comments -/

/-- Holds of the characters that text on one line may hold: a tab and all but control characters. -/
def isTextChar (c : Char) : Bool := c == '\t' || (0x20 ≤ c.toNat && c.toNat != 0x7f)

/-- Drops spaces and tabs. -/
def skipBlank (text : List Char) : List Char := text.dropWhile fun c => c == ' ' || c == '\t'

/-- The text after a line end, if one stands at its beginning. -/
def lineEnd? : List Char → Option (List Char)
  | '\n' :: rest => some rest
  | '\r' :: '\n' :: rest => some rest
  | _ => none

/-- Drops a comment, if one stands at the beginning. -/
def skipComment : List Char → List Char
  | '#' :: rest => rest.dropWhile isTextChar
  | text => text

/-- The next line, after nothing but blanks and a comment. -/
def nextLine (text : List Char) : Except Refusal (List Char) :=
  match skipComment (skipBlank text) with
  | [] => .ok []
  | rest => orMalformed rest (lineEnd? rest)

/-- Drops blanks, line ends and comments; `isComment` holds inside a comment, which has to end in a
line end. -/
def skipFiller : (isComment : Bool) → List Char → Except Refusal (List Char)
  | _, '\n' :: rest => skipFiller false rest
  | _, '\r' :: '\n' :: rest => skipFiller false rest
  | true, c :: rest =>
    if isTextChar c then skipFiller true rest else .error (malformedAt (c :: rest))
  | true, [] => .error (malformedAt [])
  | false, '#' :: rest => skipFiller true rest
  | false, c :: rest =>
    if c == ' ' || c == '\t' then skipFiller false rest
    else if c == '\r' then .error (malformedAt (c :: rest))
    else .ok (c :: rest)
  | false, [] => .ok []

/-! ### Escapes -/

/-- The character with a code, unless the code is no character's. -/
def charOfCode? (code : Nat) : Option Char :=
  if code < 0xd800 || (0xe000 ≤ code && code < 0x110000) then some (Char.ofNat code) else none

/-- The character whose code is written in some hexadecimal digits. -/
def charOfHex (count : Nat) (text : List Char) : Except Refusal (Read Char) :=
  let digits := text.take count
  match (natural? 16 digits).bind charOfCode? with
  | some c =>
    if digits.length = count then .ok (c, text.drop count) else .error (malformedAt text)
  | none => .error (malformedAt text)

/-- The character of an escape, and the text after it; the backslash is already read. -/
def escaped : List Char → Except Refusal (Read Char)
  | 'b' :: rest => .ok ('\x08', rest)
  | 't' :: rest => .ok ('\t', rest)
  | 'n' :: rest => .ok ('\n', rest)
  | 'f' :: rest => .ok ('\x0c', rest)
  | 'r' :: rest => .ok ('\r', rest)
  | '"' :: rest => .ok ('"', rest)
  | '\\' :: rest => .ok ('\\', rest)
  | 'u' :: rest => charOfHex 4 rest
  | 'U' :: rest => charOfHex 8 rest
  | _ :: rest => .error (malformedAt rest)
  | [] => .error (malformedAt [])

theorem length_charOfHex {count : Nat} {text rest : List Char} {c : Char}
    (read : charOfHex count text = .ok (c, rest)) : rest.length ≤ text.length := by
  simp only [charOfHex] at read
  split at read
  · split at read
    · cases read
      simp
    · cases read
  · cases read

theorem length_escaped {text rest : List Char} {c : Char}
    (read : escaped text = .ok (c, rest)) : rest.length < text.length := by
  unfold escaped at read
  split at read
  case h_8 =>
    exact Nat.lt_succ_of_le (length_charOfHex read)
  case h_9 =>
    exact Nat.lt_succ_of_le (length_charOfHex read)
  all_goals
    cases read
    try simp

/-! ### Strings on one line -/

/-- Reads a basic string on one line after its quote; what was read before stands latest first. -/
def basic (text : List Char) (read : List Char) : Except Refusal (Read String) :=
  match text with
  | '"' :: rest => .ok (String.ofList read.reverse, rest)
  | '\\' :: rest =>
    match escape : escaped rest with
    | .ok (c, after) =>
      have := length_escaped escape
      basic after (c :: read)
    | .error refusal => .error refusal
  | c :: rest => if isTextChar c then basic rest (c :: read) else .error (malformedAt (c :: rest))
  | [] => .error (malformedAt [])
termination_by text.length
decreasing_by all_goals grind

/-- Reads a literal string on one line after its quote. -/
def literal : List Char → List Char → Except Refusal (Read String)
  | '\'' :: rest, read => .ok (String.ofList read.reverse, rest)
  | c :: rest, read =>
    if isTextChar c then literal rest (c :: read) else .error (malformedAt (c :: rest))
  | [], _ => .error (malformedAt [])

/-! ### Strings on several lines -/

/-- Drops the blanks and line ends after a backslash that ends a line. -/
def skipLines : List Char → List Char
  | '\r' :: '\n' :: rest => skipLines rest
  | c :: rest => if c == ' ' || c == '\t' || c == '\n' then skipLines rest else c :: rest
  | [] => []

theorem length_skipLines (text : List Char) : (skipLines text).length ≤ text.length := by
  fun_induction skipLines text <;> grind

/-- Reads a string on several lines after its opening, `quote` being its quote; only a basic string
has escapes. -/
def lines (quote : Char) (text : List Char) (read : List Char) : Except Refusal (Read String) :=
  match text with
  | [] => .error (malformedAt [])
  | '\r' :: '\n' :: rest => lines quote rest ('\n' :: read)
  | c :: rest =>
    if c == quote then
      let count := 1 + (rest.takeWhile (· == quote)).length
      if count < 3 then
        lines quote (rest.dropWhile (· == quote)) (List.replicate count quote ++ read)
      else
        let own := Nat.min (count - 3) 2
        .ok (String.ofList (List.replicate own quote ++ read).reverse, (c :: rest).drop (own + 3))
    else if c == '\\' && quote == '"' then
      let after := skipBlank rest
      if (lineEnd? after).isSome then lines quote (skipLines after) read
      else match escape : escaped rest with
        | .ok (e, after) =>
          have := length_escaped escape
          lines quote after (e :: read)
        | .error refusal => .error refusal
    else if c == '\n' || isTextChar c then lines quote rest (c :: read)
    else .error (malformedAt (c :: rest))
termination_by text.length
decreasing_by
  · simp only [List.length_cons]; omega
  · exact Nat.lt_succ_of_le (List.dropWhile_sublist _).length_le
  · exact Nat.lt_succ_of_le
      (Nat.le_trans (length_skipLines _) (List.dropWhile_sublist _).length_le)
  all_goals simp only [List.length_cons]; omega

/-- Drops a line end at the beginning of a string on several lines. -/
def dropFirstLineEnd (text : List Char) : List Char := (lineEnd? text).getD text

/-- Reads a string on one line, a quoted key for instance. -/
def quotedLine : List Char → Except Refusal (Read String)
  | '"' :: rest => basic rest []
  | '\'' :: rest => literal rest []
  | text => .error (malformedAt text)

/-- Reads a string. -/
def stringValue : List Char → Except Refusal (Read String)
  | '"' :: '"' :: '"' :: rest => lines '"' (dropFirstLineEnd rest) []
  | '\'' :: '\'' :: '\'' :: rest => lines '\'' (dropFirstLineEnd rest) []
  | text => quotedLine text

end PointerForecast.Toml
