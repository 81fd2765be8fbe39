/-
**Which settings are accepted.**

* `Settings.fault?` — **the first setting that is out of range**, in a fixed order.
* `Settings.override` — the settings with some values given by the caller.

A comparison with a value that is not a number is false, so no range admits such a value.
-/

import PointerForecast.Decimal.Layout
import PointerForecast.Settings

namespace PointerForecast

/-- A setting out of range. -/
inductive SettingFault (α : Type) where
  /-- The report rate is not positive. -/
  | rate (milliseconds : Int32)
  /-- The process noise is not positive. -/
  | processNoise (value : α)
  /-- The measurement noise is not positive. -/
  | measurementNoise (value : α)
  /-- The history is too short to predict from. -/
  | historySize (size : Nat)
  /-- The weight of the latest velocity is not in `(0, 1]`. -/
  | velocitySmoothing (value : α)
  /-- The weight of the latest acceleration is not in `(0, 1]`. -/
  | accelerationSmoothing (value : α)
  /-- The greatest distance is not positive. -/
  | maxDistance (value : α)
  /-- The level has no name of a severity. -/
  | level (name : String)
  /-- The layout of the log is unknown. -/
  | format (name : String)
deriving DecidableEq

/-- The severities. -/
def logLevels : List String := ["trace", "debug", "info", "warn", "error"]

/-- The layouts of the log. -/
def logFormats : List String := ["pretty", "compact", "json"]

namespace Settings

variable {α : Type} [Scalar α]

/-- Holds of a weight. -/
def isWeight (value : α) : Bool := 0 < value && !(1 < value)

/-- The first setting that is out of range. -/
def fault? (settings : Settings α) : Option (SettingFault α) :=
  let predictor := settings.predictor
  let linear := predictor.linear
  let checks : List (Bool × SettingFault α) :=
    [(0 < predictor.noise.process, .processNoise predictor.noise.process),
      (0 < predictor.noise.measurement, .measurementNoise predictor.noise.measurement),
      (Motion.leastHistory ≤ linear.historySize, .historySize linear.historySize),
      (isWeight linear.velocitySmoothing, .velocitySmoothing linear.velocitySmoothing),
      (isWeight linear.accelerationSmoothing, .accelerationSmoothing linear.accelerationSmoothing),
      (0 < linear.maxDistance, .maxDistance linear.maxDistance),
      (logLevels.contains settings.level, .level settings.level),
      (logFormats.contains settings.format, .format settings.format)]
  match predictor.rate?.filter (· ≤ 0) with
  | some rate => some (.rate rate)
  | none => (checks.find? (!·.1)).map (·.2)

/-- The settings themselves, unless one is out of range. -/
def check (settings : Settings α) : Except (SettingFault α) (Settings α) :=
  match settings.fault? with
  | some fault => .error fault
  | none => .ok settings

end Settings

/-- Settings given by the caller, which go before all others. -/
structure Overrides where
  /-- How far ahead to predict, in milliseconds. -/
  target? : Option Int32
  /-- The explicit report rate in milliseconds. -/
  rate? : Option Int32
  /-- The strategy. -/
  strategy? : Option StrategyKind
deriving DecidableEq

/-- The settings with those of the caller in place. -/
def Settings.override {α : Type} (settings : Settings α) (overrides : Overrides) : Settings α :=
  { settings with
    predictor := { settings.predictor with
      target := overrides.target?.getD settings.predictor.target
      rate? := overrides.rate?.or settings.predictor.rate?
      strategy := overrides.strategy?.getD settings.predictor.strategy } }

/-- The text shown for a setting out of range. -/
def SettingFault.message : SettingFault Float → String
  | .rate milliseconds => (Fault.invalidReportRate milliseconds).message
  | .processNoise value => "Invalid process noise: " ++ messageNumber value
  | .measurementNoise value => "Invalid measurement noise: " ++ messageNumber value
  | .historySize size =>
    "Invalid history_size: " ++ toString size ++ " (linear predictor needs at least "
      ++ toString Motion.leastHistory ++ " samples)"
  | .velocitySmoothing value => weight "velocity_smoothing" value
  | .accelerationSmoothing value => weight "acceleration_smoothing" value
  | .maxDistance value => "Invalid max_prediction_distance: " ++ messageNumber value
  | .level name => "Invalid log level: " ++ name
  | .format name => "Invalid log format: " ++ name
where
  /-- The text shown for a weight out of range. -/
  weight (name : String) (value : Float) : String :=
    "Invalid " ++ name ++ ": " ++ messageNumber value ++ " (expected 0.0 < value <= 1.0)"

end PointerForecast
