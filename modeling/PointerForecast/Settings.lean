/-
**Settings.** What a predictor is built from, and how a program reports, with the usual values.
-/

import PointerForecast.Strategy.Kalman
import PointerForecast.Strategy.Kind
import PointerForecast.Strategy.Linear

namespace PointerForecast

/-- What a predictor is built from. -/
@[ext]
structure PredictorSettings (α : Type) where
  /-- The strategy. -/
  strategy : StrategyKind
  /-- How far ahead to predict, in milliseconds. -/
  target : Int32
  /-- The explicit report rate in milliseconds, or none for an estimate. -/
  rate? : Option Int32
  /-- The tuning of the kinematic estimate. -/
  noise : Noise α
  /-- The tuning of the extrapolation. -/
  linear : LinearTuning α
deriving DecidableEq

/-- All settings. -/
@[ext]
structure Settings (α : Type) where
  /-- What the predictor is built from. -/
  predictor : PredictorSettings α
  /-- The least severity that is logged. -/
  level : String
  /-- The layout of the log. -/
  format : String
  /-- Where the log goes, if not to the terminal. -/
  logFile? : Option String
deriving DecidableEq

/-- How far ahead to predict, in milliseconds, when nothing is said. -/
def usualTarget : Int32 := 20

variable {α : Type} [Scalar α]

/-- The usual predictor. -/
def PredictorSettings.usual : PredictorSettings α where
  strategy := .kalman
  target := usualTarget
  rate? := none
  noise := .ink
  linear := .usual

/-- The usual settings. -/
def Settings.usual : Settings α where
  predictor := .usual
  level := "info"
  format := "pretty"
  logFile? := none

end PointerForecast
