/-
**Traces: recorded events as JSON.**

A trace is an array of events. A record is an object with a key per field, or an array of the fields
in order; unknown keys are passed over, and a field with a usual value may be missing, in an array
only at its end. The action is `move` if nothing is said, and the pressure is 1.

Values are read in the order of the text, so the first one that does not fit is reported
(`Trace.ofText`). A record is drafted with all fields missing, and each field that is read is set.
-/

import PointerForecast.Event
import PointerForecast.Json.Value
import PointerForecast.Misreading

namespace PointerForecast

namespace Trace

/-! ### Fields -/

/-- Why a value is not what is expected. -/
def misread : JsonValue → Misreading
  | .string (some text) => .unexpectedText text
  | .string none => .malformed
  | .unread => .malformed
  | _ => .unexpectedValue

/-- The number of a numeral. -/
def number : JsonValue → Except Misreading JsonNumber
  | .number numeral =>
    match numeral.value? with
    | some value => .ok value
    | none => .error .unexpectedValue
  | other => .error (misread other)

/-- The items of an array. -/
def items : JsonValue → Except Misreading (List JsonValue)
  | .array items => .ok items
  | other => .error (misread other)

/-- A field of a record whose draft is a `ρ`: its name, and how its value is set. -/
abbrev Field (ρ : Type) := String × (ρ → JsonValue → Except Misreading ρ)

/-- Sets the field of a key; `seen` are the fields set before. -/
def setEntry {ρ : Type} (fields : List (Field ρ)) (state : ρ × List String)
    (entry : Option String × JsonValue) : Except Misreading (ρ × List String) := do
  let (draft, seen) := state
  match entry.1 with
  | none => throw .malformed
  | some key =>
    match fields.lookup key with
    | none => return state
    | some set =>
      if seen.contains key then throw (.repeatedField key)
      else return (← set draft entry.2, key :: seen)

/-- The draft of a record with its fields set, in the order of the text. -/
def record {ρ : Type} (fields : List (Field ρ)) (blank : ρ) : JsonValue → Except Misreading ρ
  | .array items => do
    let draft ← (fields.zip items).foldlM (fun draft (field, item) => field.2 draft item) blank
    if fields.length < items.length then throw .unexpectedValue else return draft
  | .object entries => do
    let (draft, _) ← entries.foldlM (setEntry fields) (blank, [])
    return draft
  | other => throw (misread other)

/-- The value of a field that must be given. -/
def required {β : Type} (name : String) : Option β → Except Misreading β
  | some value => .ok value
  | none => .error (.missingField name)

/-- The integer within some bounds. -/
def integer (low high : Int) (value : JsonValue) : Except Misreading Int := do
  match (← number value).toInt? low high with
  | some integer => return integer
  | none => throw .unexpectedValue

/-- A pointer's identity. -/
def pointer (value : JsonValue) : Except Misreading PointerId :=
  Int32.ofInt <$> integer Int32.minValue.toInt Int32.maxValue.toInt value

/-- A time. -/
def timestamp (value : JsonValue) : Except Misreading Timestamp :=
  Int64.ofInt <$> integer Int64.minValue.toInt Int64.maxValue.toInt value

/-- A coordinate. -/
def coordinate (value : JsonValue) : Except Misreading Float :=
  JsonNumber.toSingle <$> number value

/-! ### Records -/

/-- The coordinates of one pointer. -/
def coords (value : JsonValue) : Except Misreading (Coords Float) := do
  let blank : Coords (Option Float) := ⟨none, none, none⟩
  let draft ← record
    [("x", fun draft item => return { draft with x := some (← coordinate item) }),
      ("y", fun draft item => return { draft with y := some (← coordinate item) }),
      ("pressure", fun draft item => return { draft with pressure := some (← coordinate item) })]
    blank value
  return ⟨← required "x" draft.x, ← required "y" draft.y, draft.pressure.getD 1⟩

/-- The coordinates of all pointers at one time. -/
def batch (value : JsonValue) : Except Misreading (Batch Float) := do
  let blank : Option Timestamp × Option (List (Coords Float)) := (none, none)
  let (time, coordinates) ← record
    [("time_ms", fun (_, entries) item => return (some (← timestamp item), entries)),
      ("coords", fun (time, _) item => return (time, some (← (← items item).mapM coords)))]
    blank value
  return ⟨← required "time_ms" time, ← required "coords" coordinates⟩

/-- The action with a name. -/
def actionNamed : String → Except Misreading Action
  | "down" => .ok .down
  | "move" => .ok .move
  | "up" => .ok .up
  | "cancel" => .ok .cancel
  | other => .error (.unknownName other)

/-- An action: its name, or an object whose only key is the name and whose value is null. -/
def action : JsonValue → Except Misreading Action
  | .string (some name) => actionNamed name
  | .object ((some name, content) :: others) => do
    let named ← actionNamed name
    match content, others with
    | .word none, [] => return named
    | .word none, _ => throw .malformed
    | content, _ => throw (misread content)
  | .object _ => .error .malformed
  | other => .error (misread other)

/-- What is read of an event: its action, its pointers and its batches. -/
structure EventDraft where
  /-- The action. -/
  action : Option Action
  /-- The pointers. -/
  pointers : Option (List PointerId)
  /-- The batches. -/
  batches : Option (List (Batch Float))

/-- A motion event, whatever its shape. -/
def event (value : JsonValue) : Except Misreading (MotionEvent Float) := do
  let blank : EventDraft := ⟨none, none, none⟩
  let draft ← record
    [("action", fun draft item => return { draft with action := some (← action item) }),
      ("pointer_ids", fun draft item =>
        return { draft with pointers := some (← (← items item).mapM pointer) }),
      ("samples", fun draft item =>
        return { draft with batches := some (← (← items item).mapM batch) })]
    blank value
  return ⟨draft.action.getD .move, ← required "pointer_ids" draft.pointers,
    ← required "samples" draft.batches⟩

/-- The events of a trace, whatever their shapes. -/
def ofText (text : String) : Except Misreading (List (MotionEvent Float)) := do
  let (value, isWhole) := JsonValue.ofText text
  let events ← (← items value).mapM event
  if isWhole then return events else throw .malformed

/-- The first event of a trace whose shape has a fault, by its position. -/
def fault? {α : Type} (events : List (MotionEvent α)) : Option (Nat × Fault) :=
  events.zipIdx.findSome? fun (event, index) => event.fault?.map (index, ·)

end Trace

end PointerForecast
