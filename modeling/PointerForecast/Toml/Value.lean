/-
**TOML values, and how tables grow.**

A table can be declared by a header, implied by a header further down, or opened by a dotted key.
What may be added to it later depends on which:

* `Table.update` — **the walk along a path**, which opens the tables that are missing. A dotted key
  may pass only through tables that no header declared.
* `Table.addEntry` — **a key with its value.** A dotted key must end in a table that dotted keys
  opened, and no key is given twice.
* `Table.openSection`, `Table.closeSection` — **a header.** It may declare a table once, and only
  one that no dotted key opened; a double header adds an element to a list of tables.

Every entry has a mark in the line in which it arose. Entries are in the order in which they were
completed: a table that was implied before counts from where its own section ends.
-/

import PointerForecast.Scalar.Double
import PointerForecast.Toml.Key

namespace PointerForecast

open Toml (Mark Marked Reason)

/-- How a table came to be. -/
inductive TableOrigin where
  /-- A header declared it, or it is the whole document. -/
  | declared
  /-- A header of a table inside it implied it. -/
  | implied
  /-- A dotted key opened it. -/
  | dotted
deriving DecidableEq, Repr

/-- A TOML value. -/
inductive TomlValue where
  /-- A string. -/
  | string (text : String)
  /-- An integer. -/
  | integer (value : Int)
  /-- A number that is not an integer. -/
  | float (value : Float)
  /-- True or false. -/
  | boolean (value : Bool)
  /-- A date, a time or both. -/
  | moment
  /-- A list of values. -/
  | array (items : List (Marked TomlValue))
  /-- A table written in braces, which nothing can be added to. -/
  | inline (entries : List (String × Marked TomlValue))
  /-- A table of the document. -/
  | table (origin : TableOrigin) (entries : List (String × Marked TomlValue))
  /-- A list of tables with double headers; each element holds the entries of one. -/
  | tables (elements : List (Marked (List (String × Marked TomlValue))))

/-- The entries of a table, in order. -/
abbrev TomlEntries := List (String × Marked TomlValue)

/-- A table of the document. -/
structure Table where
  /-- How it came to be. -/
  origin : TableOrigin
  /-- Its entries. -/
  entries : TomlEntries

/-- A dotted key with its value: the tables to pass through, and the last key. -/
structure Assignment where
  /-- The place of the key. -/
  mark : Mark
  /-- The tables to pass through. -/
  path : List String
  /-- The last key. -/
  key : String
  /-- The value. -/
  value : TomlValue

/-- A header: whether it is a double one, the tables to pass through, and the last key. -/
structure Header where
  /-- The place of the header. -/
  mark : Mark
  /-- Holds of a double header. -/
  isElement : Bool
  /-- The tables to pass through. -/
  path : List String
  /-- The last key. -/
  key : String

/-- Who walks along a path. -/
inductive Walker where
  /-- A header. -/
  | header
  /-- A dotted key of the document. -/
  | dottedKey
  /-- A dotted key in a table written in braces. -/
  | inlineKey
deriving DecidableEq, Repr

namespace TomlEntries

/-- The entries with a value in place for a key. -/
def put (entries : TomlEntries) (key : String) (value : Marked TomlValue) : TomlEntries :=
  if (entries.lookup key).isSome then
    entries.map fun entry => if entry.1 == key then (key, value) else entry
  else entries ++ [(key, value)]

/-- The entries without those of a key. -/
def erase (entries : TomlEntries) (key : String) : TomlEntries :=
  entries.filter (·.1 != key)

end TomlEntries

namespace Table

/-- The empty document. -/
def root : Table := ⟨.declared, []⟩

/-- Changes the table at the end of a path, and opens the tables on the way that are missing, as
the walker does. The tables passed so far are in `passed`. -/
def update {β : Type} (walker : Walker) (mark : Mark)
    (change : Table → Except Reason (β × Table)) :
    (passed path : List String) → Table → Except Reason (β × Table)
  | _, [], table => change table
  | passed, key :: path, table => do
    let inner := update walker mark change (passed ++ [key]) path
    let (answer, value) ← match table.entries.lookup key with
      | none => do
        let (answer, opened) ← inner ⟨if walker = .header then .implied else .dotted, []⟩
        pure (answer, ⟨mark, TomlValue.table opened.origin opened.entries⟩)
      | some ⟨known, .table origin entries⟩ =>
        if walker ≠ .header ∧ origin = .declared then throw (.repeatedKey key none)
        else do
          let (answer, changed) ← inner ⟨origin, entries⟩
          pure (answer, ⟨known, .table changed.origin changed.entries⟩)
      | some ⟨known, .tables elements⟩ =>
        match elements.getLast? with
        | some last => do
          let (answer, changed) ← inner ⟨.declared, last.content⟩
          let element := { last with content := changed.entries }
          pure (answer, ⟨known, .tables (elements.dropLast ++ [element])⟩)
        | none => throw (.passesValue (passed ++ [key]))
      | some ⟨_, .inline _⟩ =>
        if walker = .inlineKey then throw (.repeatedKey key none)
        else throw (.passesValue (passed ++ [key]))
      | some _ => throw (.passesValue (passed ++ [key]))
    return (answer, { table with entries := TomlEntries.put table.entries key value })

/-- Adds a key with its value; `header` is the path of the table, if it is told by a header. -/
def addEntry (walker : Walker) (header : Option (List String)) (table : Table)
    (entry : Assignment) : Except Reason Table := do
  let add (target : Table) : Except Reason (Unit × Table) :=
    if !entry.path.isEmpty && target.origin != .dotted then throw (.repeatedKey entry.key none)
    else if (target.entries.lookup entry.key).isSome then throw (.repeatedKey entry.key header)
    else
      return ((), { target with
        entries := target.entries ++ [(entry.key, ⟨entry.mark, entry.value⟩)] })
  let (_, changed) ← table.update walker entry.mark add [] entry.path
  return changed

/-- The entries of a table written in braces, if they go together. -/
def inlineEntries (entries : List Assignment) : Except Reason TomlEntries := do
  let table ← entries.foldlM (addEntry .inlineKey none) root
  return table.entries

/-- Makes room for the section of a header: the entries that its table has already, and the document
without them. -/
def openSection (document : Table) (header : Header) : Except Reason (TomlEntries × Table) :=
  let make (parent : Table) : Except Reason (TomlEntries × Table) :=
    match header.isElement, parent.entries.lookup header.key with
    | _, none => return ([], parent)
    | false, some ⟨_, .table .implied known⟩ =>
      return (known, { parent with entries := TomlEntries.erase parent.entries header.key })
    | true, some ⟨_, .tables _⟩ => return ([], parent)
    | _, some _ => throw (.repeatedKey (Toml.writtenKey header.key) (some header.path))
  document.update .header header.mark make [] header.path

/-- Puts the section of a header in its place. -/
def closeSection (document : Table) (header : Header) (entries : TomlEntries) :
    Except Reason Table := do
  let place (parent : Table) : Except Reason (Unit × Table) :=
    let value : Marked TomlValue := match header.isElement, parent.entries.lookup header.key with
      | false, _ => ⟨header.mark, .table .declared entries⟩
      | true, some ⟨known, .tables elements⟩ =>
        ⟨known, .tables (elements ++ [⟨header.mark, entries⟩])⟩
      | true, _ => ⟨header.mark, .tables [⟨header.mark, entries⟩]⟩
    return ((), { parent with entries := TomlEntries.put parent.entries header.key value })
  let (_, changed) ← document.update .header header.mark place [] header.path
  return changed

end Table

end PointerForecast
