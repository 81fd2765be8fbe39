/-
**Settings from TOML.**

A record is a table with a key per field, or an array of the fields in order. Unknown keys and items
beyond the last field are passed over, and a field that is not given has its usual value. A moment
stands for a record that gives no field.

The entries of a table are read in order, and the first value that does not fit is reported
(`Settings.ofText`), in the line in which it stands.
-/

import PointerForecast.Settings
import PointerForecast.Toml.Document

namespace PointerForecast

namespace Toml

/-! ### Fields -/

/-- The fault of a value that is not what is expected. -/
def misfit (value : Marked TomlValue) : Fault :=
  match value.content with
  | .string text => ⟨value.mark, .misread (.unexpectedText text)⟩
  | _ => ⟨value.mark, .misread .unexpectedValue⟩

/-- A field of a record `ρ`: its name, and how its value is set. -/
abbrev Field (ρ : Type) := String × (ρ → Marked TomlValue → Except Fault ρ)

/-- The record with the fields that a table gives. -/
def ofEntries {ρ : Type} (fields : List (Field ρ)) (usual : ρ) (entries : TomlEntries) :
    Except Fault ρ :=
  entries.foldlM
    (fun record (key, value) =>
      match fields.lookup key with
      | some set => set record value
      | none => return record)
    usual

/-- The record with the fields that a list gives. -/
def ofItems {ρ : Type} (fields : List (Field ρ)) (usual : ρ) (items : List (Marked TomlValue)) :
    Except Fault ρ :=
  (fields.zip items).foldlM (fun record (field, value) => field.2 record value) usual

/-- The record with the fields that a value gives. -/
def record {ρ : Type} (fields : List (Field ρ)) (usual : ρ) (value : Marked TomlValue) :
    Except Fault ρ :=
  match value.content with
  | .table _ entries => ofEntries fields usual entries
  | .inline entries => ofEntries fields usual entries
  | .array items => ofItems fields usual items
  | .tables elements =>
    ofItems fields usual
      (elements.map fun element => ⟨element.mark, .table .declared element.content⟩)
  | .moment => .ok usual
  | _ => .error (misfit value)

/-- An integer within some bounds. -/
def integer (low high : Int) (value : Marked TomlValue) : Except Fault Int :=
  match value.content with
  | .integer number => if low ≤ number ∧ number ≤ high then .ok number else .error (misfit value)
  | _ => .error (misfit value)

/-- A number of milliseconds. -/
def milliseconds (value : Marked TomlValue) : Except Fault Int32 :=
  Int32.ofInt <$> integer Int32.minValue.toInt Int32.maxValue.toInt value

/-- A size. -/
def size (value : Marked TomlValue) : Except Fault Nat := Int.toNat <$> integer 0 maxWord value

/-- A number: an integer counts as one. -/
def number (value : Marked TomlValue) : Except Fault Float :=
  match value.content with
  | .float number => .ok number
  | .integer number => .ok (Float.ofInt number)
  | _ => .error (misfit value)

/-- A text. -/
def text (value : Marked TomlValue) : Except Fault String :=
  match value.content with
  | .string text => .ok text
  | _ => .error (misfit value)

/-! ### Strategies -/

/-- Holds of an array or a table without content. -/
def isEmpty : TomlValue → Bool
  | .array items => items.isEmpty
  | .inline entries => entries.isEmpty
  | .table _ entries => entries.isEmpty
  | _ => false

/-- Holds of a table that stands in the line of what holds it, since no header declares it. -/
def isUndeclared : TomlValue → Bool
  | .table origin _ => origin != .declared
  | _ => false

/-- The strategy with a name that stands at a place. -/
def strategyNamed (mark : Mark) : String → Except Fault StrategyKind
  | "kalman" => .ok .kalman
  | "linear" => .ok .linear
  | other => .error ⟨mark, .misread (.unknownName other)⟩

/-- The strategy that a table names: its only key is the name, and the value is empty. -/
def strategyKey (value : Marked TomlValue) : TomlEntries → Except Fault StrategyKind
  | [(name, inner)] => do
    let kind ← strategyNamed inner.mark name
    if isEmpty inner.content then return kind
    else
      let mark := if isUndeclared inner.content then value.mark else inner.mark
      throw ⟨mark, .misread .unexpectedValue⟩
  | _ => .error ⟨value.mark, .misread .unexpectedValue⟩

/-- A strategy: its name, or a table whose only key is the name and whose value is empty. -/
def strategy (value : Marked TomlValue) : Except Fault StrategyKind :=
  match value.content with
  | .string name => strategyNamed value.mark name
  | .inline entries => strategyKey value entries
  | .table _ entries => strategyKey value entries
  | _ => .error ⟨value.mark, .misread .unexpectedValue⟩

/-! ### Records -/

/-- The tuning of the extrapolation. -/
def linearTuning : Marked TomlValue → Except Fault (LinearTuning Float) :=
  record
    [("history_size", fun t given => return { t with historySize := ← size given }),
      ("velocity_smoothing", fun t given => return { t with velocitySmoothing := ← number given }),
      ("acceleration_smoothing", fun t given =>
        return { t with accelerationSmoothing := ← number given }),
      ("max_prediction_distance", fun t given => return { t with maxDistance := ← number given }),
      ("min_speed", fun t given => return { t with minSpeed := ← number given })]
    .usual

/-- What the predictor is built from. -/
def predictorSettings : Marked TomlValue → Except Fault (PredictorSettings Float) :=
  record
    [("strategy", fun s given => return { s with strategy := ← strategy given }),
      ("prediction_target_ms", fun s given => return { s with target := ← milliseconds given }),
      ("report_rate_ms", fun s given => return { s with rate? := some (← milliseconds given) }),
      ("process_noise", fun s given =>
        return { s with noise := { s.noise with process := ← number given } }),
      ("measurement_noise", fun s given =>
        return { s with noise := { s.noise with measurement := ← number given } }),
      ("linear", fun s given => return { s with linear := ← linearTuning given })]
    .usual

/-- The settings with those of the log. -/
def logSettings (settings : Settings Float) : Marked TomlValue → Except Fault (Settings Float) :=
  record
    [("level", fun s given => return { s with level := ← text given }),
      ("format", fun s given => return { s with format := ← text given }),
      ("log_file", fun s given => return { s with logFile? := some (← text given) })]
    settings

end Toml

/-- The settings that a text gives, or the text shown for what is wrong with it. -/
def Settings.ofText (text : String) : Except String (Settings Float) :=
  let read : Except Toml.Fault (Settings Float) := do
    let document ← Toml.document text.toList
    Toml.ofEntries
      [("predictor", fun s given => return { s with predictor := ← Toml.predictorSettings given }),
        ("logging", Toml.logSettings)]
      .usual document.entries
  read.mapError (Toml.faultText text.toList)

end PointerForecast
