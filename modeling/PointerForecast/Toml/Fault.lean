/-
**Places in a text, and what is wrong there.**

A place in a text is given by the text from there on, its mark: a reader has the mark at hand at any
time. `lineOf` finds the line of a mark; the end of a text belongs to its last line.

A fault is shown with the whole line in which it stands.

A reader takes something from the beginning of a text or refuses the text. A refusal is final once
the beginning has left only one way to read on; otherwise whoever asked may read the text in another
way (`otherwise`, `optional`), and what the refusal says is then forgotten.
-/

import PointerForecast.Misreading

namespace PointerForecast.Toml

/-! ### Places and faults -/

/-- A place in a text: the text from there on. -/
abbrev Mark := List Char

/-- Something with the place where it stands. -/
structure Marked (β : Type) where
  /-- The place. -/
  mark : Mark
  /-- What stands there. -/
  content : β

/-- What is wrong at a place. -/
inductive Reason where
  /-- A key is given twice, or what it names cannot be added to; the table is told where it is known
  by its header. -/
  | repeatedKey (key : String) (table : Option (List String))
  /-- A key passes through a value that is no table. -/
  | passesValue (path : List String)
  /-- A value does not fit. -/
  | misread (misreading : Misreading)
deriving DecidableEq, Repr

/-- What is wrong, and where. -/
abbrev Fault := Marked Reason

/-- The number of a place's line, from one on, and the line. -/
def lineOf (text : List Char) (mark : Mark) : Nat × List Char :=
  let offset := Nat.min (text.length - mark.length) (text.length - 1)
  let before := text.take offset
  let start := (before.reverse.takeWhile (· != '\n')).reverse
  (before.count '\n' + 1, start ++ (text.drop offset).takeWhile (· != '\n'))

/-- The text shown for what is wrong. -/
def Reason.message : Reason → String
  | repeatedKey key none => "duplicate key `" ++ key ++ "`"
  | repeatedKey key (some []) => "duplicate key `" ++ key ++ "` in document root"
  | repeatedKey key (some path) =>
    "duplicate key `" ++ key ++ "` in table `" ++ ".".intercalate path ++ "`"
  | passesValue path => "dotted key `" ++ ".".intercalate path ++ "` extends a value"
  | misread misreading => misreading.message

/-- The text shown for a fault in a text. -/
def faultText (text : List Char) (fault : Fault) : String :=
  let (number, line) := lineOf text fault.mark
  "TOML parse error at line " ++ toString number ++ "\n" ++ String.ofList line ++ "\n"
    ++ fault.content.message

/-! ### Readers -/

/-- Why a reader does not read a text. -/
structure Refusal where
  /-- What is wrong. -/
  fault : Fault
  /-- Holds if the text cannot be read in any other way. -/
  isFinal : Bool

/-- What is read at the beginning of a text, with the text after it. -/
abbrev Read (β : Type) := β × List Char

/-- A reader of the beginning of a text. -/
abbrev Reader (β : Type) := List Char → Except Refusal (Read β)

/-- The refusal of a text that breaks off the rules of the format. -/
def malformedAt (mark : Mark) : Refusal := ⟨⟨mark, .misread .malformed⟩, true⟩

/-- The refusal of a text that does not begin as a reader expects. -/
def absentAt (mark : Mark) : Refusal := ⟨⟨mark, .misread .malformed⟩, false⟩

/-- A reading whose refusal is final. -/
def settled {β : Type} (reading : Except Refusal β) : Except Refusal β :=
  reading.mapError fun refusal => { refusal with isFinal := true }

/-- A value, unless there is none: then the text is malformed at a place. -/
def orMalformed {β : Type} (mark : Mark) : Option β → Except Refusal β
  | some value => .ok value
  | none => .error (malformedAt mark)

/-- A value, unless there is none: then the text does not begin as expected. -/
def orAbsent {β : Type} (mark : Mark) : Option β → Except Refusal β
  | some value => .ok value
  | none => .error (absentAt mark)

/-- The first of two readings that does not leave the text to the other. -/
def otherwise {β : Type} (first second : Except Refusal β) : Except Refusal β :=
  match first with
  | .ok read => .ok read
  | .error refusal => if refusal.isFinal then .error refusal else second

/-- Reads something that may be missing at the beginning of a text. -/
def optional {β : Type} (reader : Reader β) (text : List Char) :
    Except Refusal (Read (Option β)) :=
  otherwise ((fun (value, rest) => (some value, rest)) <$> reader text) (.ok (none, text))

end PointerForecast.Toml
