/-
**TOML documents.**

A document is a list of lines: entries, headers, comments and empty lines. Arrays and tables in
braces nest, but only so far (`maxDepth`). A header opens a section, which holds the entries under
it.

A document is read line by line. What goes together with what precedes it is settled as soon as a
line is complete, so the first thing wrong in the text ends the reading. A fault in how lines or the
entries in braces go together is found where the line or the content of the braces begins, and for
braces before what follows the entries is read; any other one is found up to where the text could be
followed.

The readers of parts repeat a step at most `size` times, where `size` exceeds the length of the
document: every step takes a character.

* `Toml.document` — **the table that a text denotes**, or the first fault.
-/

import PointerForecast.Toml.Number
import PointerForecast.Toml.Value

namespace PointerForecast.Toml

/-- Drops a character that has to stand at the beginning. -/
def expect (c : Char) (text : List Char) : Except Refusal (List Char) :=
  orMalformed text (after? c text)

/-! ### Values -/

/-- Reads an integer or another number. -/
def numberValue (text : List Char) : Except Refusal (Read TomlValue) :=
  otherwise ((fun (value, rest) => (.float value, rest)) <$> floatValue text)
    ((fun (value, rest) => (.integer value, rest)) <$> integerValue text)

/-- Reads a value that has no parts. Its first character tells the kind, but for a moment, which may
begin like a number. -/
def simple (text : List Char) : Except Refusal (Read TomlValue) :=
  match text with
  | '"' :: _ => (fun (value, rest) => (.string value, rest)) <$> stringValue text
  | '\'' :: _ => (fun (value, rest) => (.string value, rest)) <$> stringValue text
  | 't' :: _ => word "true" (.boolean true) text
  | 'f' :: _ => word "false" (.boolean false) text
  | _ => otherwise ((.moment, ·) <$> afterMoment text) (numberValue text)

/-- Reads the items of an array after its bracket, with a reader for one item; what was read before
stands latest first. An item that is refused, but not for good, is malformed itself, and so is one
with malformed filler after it. -/
def items (item : Reader TomlValue) :
    (fuel : Nat) → List (Marked TomlValue) → Reader TomlValue
  | 0, _, text => .error (malformedAt text)
  | fuel + 1, before, text => do
    match ← skipFiller false text with
    | ']' :: rest => return (.array before.reverse, rest)
    | start => do
      let (value, rest) ← otherwise (item start) (.error (malformedAt start))
      let read := ⟨start, value⟩ :: before
      match ← (skipFiller false rest).mapError fun _ => malformedAt start with
      | ',' :: rest => items item fuel read rest
      | ']' :: rest => return (.array read.reverse, rest)
      | rest => throw (malformedAt rest)

/-- Reads a key, the sign of equality and a value. A text that begins with a key is refused for
good. -/
def assignment (size : Nat) (value : Reader TomlValue) (text : List Char) :
    Except Refusal (Read Assignment) := do
  let ((path, key), rest) ← key size text
  settled do
    let (read, rest) ← value (skipBlank (← expect '=' rest))
    return (⟨text, path, key, read⟩, rest)

/-- Reads the entries of a table in braces as long as there are any; what was read before stands
latest first. Where no entry follows, the text goes on at `back`: a comma without an entry after it
is left. -/
def inlineEntries (size : Nat) (value : Reader TomlValue) :
    (fuel : Nat) → List Assignment → (back : List Char) → Reader (List Assignment)
  | 0, _, _, text => .error (malformedAt text)
  | fuel + 1, before, back, text => do
    match ← optional (assignment size value) text with
    | (none, _) => return (before.reverse, back)
    | (some entry, rest) =>
      match skipBlank rest with
      | ',' :: more => inlineEntries size value fuel (entry :: before) (',' :: more) more
      | rest => return ((entry :: before).reverse, rest)

/-- Reads a table in braces after its brace. Entries that do not go together refuse the text for
good, where they begin. -/
def inlineTable (size : Nat) (value : Reader TomlValue) (text : List Char) :
    Except Refusal (Read TomlValue) := do
  let (entries, rest) ← inlineEntries size value size [] text text
  let table ← (Table.inlineEntries entries).mapError (⟨⟨text, ·⟩, true⟩)
  return (.inline table, ← expect '}' (skipBlank rest))

/-- Reads a value; `room` more arrays and tables in braces may open. -/
def value (size : Nat) : (room : Nat) → Reader TomlValue
  | room + 1, '[' :: rest => items (value size room) size [] rest
  | room + 1, '{' :: rest => inlineTable size (value size room) rest
  | _, text => simple text

/-! ### Lines -/

/-- Reads a header. -/
def headerAt (size : Nat) (text : List Char) : Except Refusal (Read Header) :=
  match text with
  | '[' :: '[' :: rest => do
    let ((path, key), rest) ← key size rest
    return (⟨text, true, path, key⟩, ← expect ']' (← expect ']' rest))
  | '[' :: rest => do
    let ((path, key), rest) ← key size rest
    return (⟨text, false, path, key⟩, ← expect ']' rest)
  | _ => .error (malformedAt text)

/-- The document read so far: the finished sections, and the one that is open. -/
structure Draft where
  /-- The finished sections. -/
  document : Table
  /-- The header of the open section, if it has one. -/
  header : Option Header
  /-- The open section. -/
  current : Table

namespace Draft

/-- Nothing read yet. -/
def empty : Draft := ⟨.root, none, .root⟩

/-- The document with the open section finished. -/
def finish (draft : Draft) : Except Reason Table :=
  match draft.header with
  | none => .ok draft.current
  | some header => draft.document.closeSection header draft.current.entries

/-- Opens the section of a header. -/
def openSection (draft : Draft) (header : Header) : Except Reason Draft := do
  let (known, document) ← (← draft.finish).openSection header
  return ⟨document, some header, ⟨.declared, known⟩⟩

/-- The path of the open section. -/
def path (draft : Draft) : List String :=
  match draft.header with
  | none => []
  | some header => header.path ++ [header.key]

/-- Adds an entry to the open section. -/
def addEntry (draft : Draft) (entry : Assignment) : Except Reason Draft := do
  return { draft with current := ← draft.current.addEntry .dottedKey (some draft.path) entry }

/-- Reads one line, without the blanks in front of it, and what follows it. -/
def line (size : Nat) (draft : Draft) (text : List Char) :
    Except Refusal (Read Draft) := do
  match text with
  | '#' :: _ => return (draft, ← nextLine text)
  | '\n' :: _ => return (draft, ← nextLine text)
  | '\r' :: _ => return (draft, ← nextLine text)
  | '[' :: _ => do
    let (opened, rest) ← headerAt size text
    let next ← nextLine rest
    return (← (draft.openSection opened).mapError (⟨⟨text, ·⟩, true⟩), next)
  | _ => do
    let (entry, rest) ← assignment size (value size (maxDepth - 1)) text
    let next ← nextLine rest
    return (← (draft.addEntry entry).mapError (⟨⟨text, ·⟩, true⟩), next)

/-- Reads lines until the text ends. -/
def lines (size : Nat) : (fuel : Nat) → Draft → List Char → Except Refusal Draft
  | 0, _, text => .error (malformedAt text)
  | fuel + 1, draft, text =>
    match skipBlank text with
    | [] => .ok draft
    | text => do
      let (next, rest) ← draft.line size text
      lines size fuel next rest

end Draft

/-- Drops a byte order mark. -/
def skipMark : List Char → List Char
  | '\ufeff' :: rest => rest
  | text => text

/-- The table that a text denotes. -/
def document (text : List Char) : Except Fault Table := do
  let size := text.length + 1
  let draft ← (Draft.lines size size .empty (skipMark text)).mapError (·.fault)
  draft.finish.mapError (⟨[], ·⟩)

end PointerForecast.Toml
