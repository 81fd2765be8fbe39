/-
**Replay of recorded events.**

A replay goes through the events once. Every event gives one frame: when it happened, whether it was
handled, and what was predicted after it. The counts of the summary are kept along the way. Whatever
records events and predicts can be replayed with: an `Engine`.
-/

import PointerForecast.Predictor

namespace PointerForecast

/-- What one event led to. -/
@[ext]
structure Frame (α : Type) where
  /-- The time of the event's latest batch. -/
  time? : Option Timestamp
  /-- Whether the predictor handled the event. -/
  handled : Bool
  /-- The prediction after the event, if the predictor was ready. -/
  prediction : Option (Prediction α)
deriving DecidableEq

/-- Counts over frames. -/
@[ext]
structure Summary where
  /-- The events replayed. -/
  events : Nat
  /-- The events handled. -/
  handled : Nat
  /-- The handled events after which the predictor was not ready. -/
  notReady : Nat
  /-- The predictions made. -/
  predictions : Nat
  /-- The samples of all predictions. -/
  predictedSamples : Nat
  /-- The length of the longest prediction. -/
  maxHorizon : Nat
deriving DecidableEq, Repr

namespace Summary

/-- Nothing replayed. -/
def zero : Summary := ⟨0, 0, 0, 0, 0, 0⟩

/-- The counts with what one more frame says. -/
def note {α : Type} (summary : Summary) (frame : Frame α) : Summary :=
  let seen := if frame.handled then { summary with handled := summary.handled + 1 } else summary
  match frame.prediction with
  | some prediction =>
    { seen with
      predictions := seen.predictions + 1
      predictedSamples := seen.predictedSamples + prediction.length
      maxHorizon := Nat.max seen.maxHorizon prediction.length }
  | none => if frame.handled then { seen with notReady := seen.notReady + 1 } else seen

/-- The mean length of a prediction; zero without predictions. -/
def meanHorizon {α : Type} [Scalar α] (summary : Summary) : α :=
  if summary.predictions = 0 then 0
  else ((summary.predictedSamples : Int) : α) / ((summary.predictions : Int) : α)

end Summary

/-- What a replay led to. -/
@[ext]
structure Report (α : Type) where
  /-- One frame per event, in order. -/
  frames : List (Frame α)
  /-- The counts over all frames. -/
  summary : Summary
deriving DecidableEq

/-- What can be replayed with, whatever its state is. -/
structure Engine (α σ : Type) where
  /-- Takes an event into account; says whether it was handled. -/
  record : σ → MotionEvent α → σ × Bool
  /-- Predicts, if it can. -/
  predict : σ → σ × Option (Prediction α)

/-- What a replay carries from one event to the next. -/
structure Progress (α σ : Type) where
  /-- The state of the engine. -/
  state : σ
  /-- The frames so far. -/
  frames : Array (Frame α)
  /-- The counts so far. -/
  summary : Summary

namespace Engine

variable {α σ : Type} (engine : Engine α σ)

/-- Takes one event into account and, if it was handled, predicts. -/
def step (state : σ) (event : MotionEvent α) : σ × Frame α :=
  let recorded := engine.record state event
  if recorded.2 then
    let predicted := engine.predict recorded.1
    (predicted.1, ⟨event.time?, true, predicted.2⟩)
  else (recorded.1, ⟨event.time?, false, none⟩)

/-- One round of a replay. -/
def advance (progress : Progress α σ) (event : MotionEvent α) : Progress α σ :=
  let stepped := engine.step progress.state event
  { state := stepped.1
    frames := progress.frames.push stepped.2
    summary := progress.summary.note stepped.2 }

/-- Replays events from a state. -/
def replay (state : σ) (events : List (MotionEvent α)) : Report α :=
  let start : Progress α σ :=
    { state := state, frames := #[], summary := { Summary.zero with events := events.length } }
  let final := events.foldl engine.advance start
  ⟨final.frames.toList, final.summary⟩

end Engine

namespace Predictor

variable {α : Type} [Scalar α]

/-- Predictors as what can be replayed with. -/
def engine : Engine α (Predictor α) := ⟨record, predict⟩

/-- Takes one event into account and, if it was handled, predicts. -/
def step (predictor : Predictor α) (event : MotionEvent α) : Predictor α × Frame α :=
  engine.step predictor event

/-- Replays events. -/
def replay (predictor : Predictor α) (events : List (MotionEvent α)) : Report α :=
  engine.replay predictor events

end Predictor

end PointerForecast
