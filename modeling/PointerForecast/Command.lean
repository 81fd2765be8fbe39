/-
**Commands to a session.**

A run of a session is a list of commands, answered one by one. `Session.apply` answers for the bare
strategy. `Session.serve` answers for a caller who only forwards events: contacts start strokes, and
predictions are padded.
-/

import PointerForecast.Session

namespace PointerForecast

/-- What a session can be told or asked. -/
inductive Command (α : Type) where
  /-- Predict this many milliseconds ahead. -/
  | setTarget (milliseconds : Int32)
  /-- Samples come at this rate. -/
  | setRate (milliseconds : Int32)
  /-- A stroke of this pointer begins. -/
  | beginStroke (pointer : PointerId)
  /-- An event arrived. -/
  | observe (event : MotionEvent α)
  /-- Predict. -/
  | predict
  /-- Fill a prediction up. -/
  | pad (prediction : Option (Prediction α))

/-- How a session answers a command. -/
inductive Outcome (α : Type) where
  /-- Nothing to report. -/
  | done
  /-- Whether the rate was taken. -/
  | rate (result : Except Fault Unit)
  /-- Whether the event was handled. -/
  | handled (handled : Bool)
  /-- The prediction, if the session can predict. -/
  | prediction (prediction : Option (Prediction α))

namespace Session

variable {α M : Type} [Scalar α] (strategy : Strategy α M)

/-- Answers a command that concerns the settings of a session or a given prediction; `observe` and
`predict` say how the other two are answered. -/
def answer (observe : MotionEvent α → Session α M × Bool)
    (predict : Session α M × Option (Prediction α)) (session : Session α M) :
    Command α → Session α M × Outcome α
  | .setTarget milliseconds => (session.setTarget milliseconds, .done)
  | .setRate milliseconds =>
    match session.setRate milliseconds with
    | .ok next => (next, .rate (.ok ()))
    | .error fault => (session, .rate (.error fault))
  | .beginStroke pointer => (session.beginStroke strategy pointer, .done)
  | .observe event => let (next, handled) := observe event; (next, .handled handled)
  | .predict => let (next, prediction) := predict; (next, .prediction prediction)
  | .pad prediction => (session, .prediction (session.pad strategy prediction))

/-- Answers a command as the strategy itself does. -/
def apply (session : Session α M) (command : Command α) : Session α M × Outcome α :=
  session.answer strategy (session.observe strategy) (session.predict strategy) command

/-- Answers a command for a caller who only forwards events. -/
def serve (session : Session α M) (command : Command α) : Session α M × Outcome α :=
  session.answer strategy (session.record strategy) (session.predictPadded strategy) command

end Session

end PointerForecast
