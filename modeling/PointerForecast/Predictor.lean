/-
**Predictors.**

A session with one of the two strategies, built from settings, for a caller who only forwards events
and asks for predictions.

A new predictor that extrapolates asks for the memory of its whole history at once. Settings bound the
history from below only, so there may not be as much: `PredictorSettings.crash?` says what happens then,
and `Predictor.ofSettings` which predictor is built otherwise.
-/

import PointerForecast.Command
import PointerForecast.Settings

namespace PointerForecast

/-- A session together with its strategy's tuning. -/
inductive Predictor (α : Type) where
  /-- A session that follows the kinematic estimate. -/
  | kalman (noise : Noise α) (session : Session α (Tracker α))
  /-- A session that extrapolates the smoothed motion. -/
  | linear (tuning : LinearTuning α) (session : Session α (Motion α))

namespace Predictor

variable {α : Type} [Scalar α]

/-- Answers a command. -/
def serve : Predictor α → Command α → Predictor α × Outcome α
  | .kalman noise session, command =>
    let (next, outcome) := session.serve (PointerForecast.kalman noise) command
    (.kalman noise next, outcome)
  | .linear tuning session, command =>
    let (next, outcome) := session.serve (PointerForecast.linear tuning) command
    (.linear tuning next, outcome)

/-- Takes an event into account; says whether it was handled. -/
def record : Predictor α → MotionEvent α → Predictor α × Bool
  | .kalman noise session, event =>
    let (next, handled) := session.record (PointerForecast.kalman noise) event
    (.kalman noise next, handled)
  | .linear tuning session, event =>
    let (next, handled) := session.record (PointerForecast.linear tuning) event
    (.linear tuning next, handled)

/-- Predicts, with as many samples as expected. -/
def predict : Predictor α → Predictor α × Option (Prediction α)
  | .kalman noise session =>
    let (next, prediction) := session.predictPadded (PointerForecast.kalman noise)
    (.kalman noise next, prediction)
  | .linear tuning session =>
    let (next, prediction) := session.predictPadded (PointerForecast.linear tuning)
    (.linear tuning next, prediction)

/-- The target in force. -/
def target : Predictor α → Int32
  | .kalman _ session => session.target
  | .linear _ session => session.target

/-- A session with the target and the rate of some settings. -/
def configure {M : Type} (settings : PredictorSettings α) (strategy : Strategy α M) :
    Except Fault (Session α M) :=
  let session := (Session.start strategy).setTarget settings.target
  match settings.rate? with
  | some rate => session.setRate rate
  | none => .ok session

/-- The predictor that settings describe, as long as there is memory for it. -/
def ofSettings (settings : PredictorSettings α) : Except Fault (Predictor α) :=
  match settings.strategy with
  | .kalman =>
    (configure settings (PointerForecast.kalman settings.noise)).map (.kalman settings.noise)
  | .linear =>
    (configure settings (PointerForecast.linear settings.linear)).map (.linear settings.linear)

end Predictor

/-! ### Memory -/

/-- How asking for memory ends the program. -/
inductive Crash where
  /-- More is asked for than can be addressed, and the program panics. -/
  | overflow
  /-- What is asked for is not there, and the program is aborted. -/
  | refused
deriving DecidableEq, Repr

/-- The bytes that one sample of a history takes: a position, a pressure and a time. -/
def Moment.size : Nat := 32

/-- The most bytes that can be asked for at once. -/
def mostMemory : Nat := Nat.pow 2 63 - 1

namespace PredictorSettings

variable {α : Type}

/-- The bytes that a new predictor asks for: an extrapolation has room for its whole history. -/
def memory (settings : PredictorSettings α) : Nat :=
  match settings.strategy with
  | .kalman => 0
  | .linear => Motion.depth settings.linear * Moment.size

/-- How a new predictor ends the program, where `allocates` says how many bytes can be had. -/
def crash? (settings : PredictorSettings α) (allocates : Nat → Bool) : Option Crash :=
  if settings.memory = 0 then none
  else if mostMemory < settings.memory then some .overflow
  else if allocates settings.memory then none
  else some .refused

end PredictorSettings

end PointerForecast
