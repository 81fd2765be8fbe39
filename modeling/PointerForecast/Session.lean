/-
**A session of one tracked pointer.**

What every strategy shares: the tracked pointer, the target, the report rate, and the point stored by
the latest prediction. A sample is accepted unless it merely repeats the one before it; only accepted
samples reach the strategy's memory and the report rate.

With an explicit rate the caller expects a fixed number of samples, `Session.expected?`. Such a
prediction never waits for the strategy to be ready, is never longer than expected, and
`Session.pad` fills what is missing with one sample, the furthest point predicted.
-/

import PointerForecast.ReportRate
import PointerForecast.Strategy

namespace PointerForecast

/-- The state of a session with a strategy whose memory is `M`. -/
@[ext]
structure Session (α M : Type) where
  /-- The tracked pointer. -/
  pointer : PointerId
  /-- How far ahead to predict, in milliseconds; never negative. -/
  target : Int32
  /-- The time between two samples. -/
  rate : ReportRate α
  /-- The strategy's memory of the current stroke. -/
  memory : M
  /-- The furthest point of the latest prediction in the current stroke. -/
  furthest : Option (Coords α)
deriving DecidableEq

/-- How long, in milliseconds, an unchanged position counts as a repetition. -/
def repeatWindow : Int := 20

variable {α M : Type}

/-- A time moved by some milliseconds, kept within the range of times. -/
def Timestamp.shift (time : Timestamp) (milliseconds : Int) : Timestamp :=
  .ofIntClamp (time.toInt + milliseconds)

/-- The milliseconds from one time to another, kept within the range of times. -/
def Timestamp.elapsed (later earlier : Timestamp) : Timestamp :=
  .ofIntClamp (later.toInt - earlier.toInt)

variable [Scalar α]

/-- Holds if a new observation merely repeats this one: some platforms deliver the same move several
times when several pointers are down. -/
def Moment.isRepeatedBy (previous next : Moment α) : Bool :=
  next.coords.x == previous.coords.x && next.coords.y == previous.coords.y
    && next.time ≤ Timestamp.shift previous.time repeatWindow

namespace Session

variable (strategy : Strategy α M)

/-! ### Strokes -/

/-- A session before its first stroke. -/
def start : Session α M where
  pointer := 0
  target := 0
  rate := .unknown
  memory := strategy.blank
  furthest := none

/-- The sample of the current stroke that was accepted last. -/
def last (session : Session α M) : Option (Moment α) := strategy.last session.memory

/-- The session with everything about the current stroke forgotten. -/
def clear (session : Session α M) : Session α M :=
  { session with memory := strategy.blank, furthest := none }

/-- Starts a stroke of a pointer. -/
def beginStroke (session : Session α M) (pointer : PointerId) : Session α M :=
  { session.clear strategy with pointer := pointer }

/-- The session with an accepted sample. -/
def accept (session : Session α M) (moment : Moment α) : Session α M :=
  { session with
    rate := match session.last strategy with
      | some previous =>
        session.rate.record ((Timestamp.elapsed moment.time previous.time).toInt : α)
      | none => session.rate
    memory := strategy.absorb session.memory moment }

omit [Scalar α] in
@[simp]
theorem last_start : (start strategy).last strategy = none := strategy.last_blank

omit [Scalar α] in
@[simp]
theorem last_clear (session : Session α M) : (session.clear strategy).last strategy = none :=
  strategy.last_blank

omit [Scalar α] in
@[simp]
theorem last_beginStroke (session : Session α M) (pointer : PointerId) :
    (session.beginStroke strategy pointer).last strategy = none := strategy.last_blank

@[simp]
theorem last_accept (session : Session α M) (moment : Moment α) :
    (session.accept strategy moment).last strategy = some moment :=
  strategy.last_absorb session.memory moment

/-- Holds of an observation that the session drops. -/
def isRepetition (session : Session α M) (moment : Moment α) : Bool :=
  match session.last strategy with
  | some previous => previous.isRepeatedBy moment
  | none => false

/-- Takes one observation of the tracked pointer into account, unless it is a repetition. -/
def take (session : Session α M) (moment : Moment α) : Session α M :=
  if session.isRepetition strategy moment then session else session.accept strategy moment

/-- Takes an event into account. A cancelled stroke is forgotten, and an event without the tracked
pointer changes nothing; neither counts as handled. -/
def observe (session : Session α M) (event : MotionEvent α) : Session α M × Bool :=
  if event.isCancel then (session.clear strategy, false)
  else match event.trackOf session.pointer with
    | some moments => (moments.foldl (take strategy) session, true)
    | none => (session, false)

/-- Takes an event into account, and starts a stroke of its first pointer if it is a contact. -/
def record (session : Session α M) (event : MotionEvent α) : Session α M × Bool :=
  match event.action, event.pointers with
  | .down, pointer :: _ => (session.beginStroke strategy pointer).observe strategy event
  | _, _ => session.observe strategy event

/-! ### Target and rate -/

omit [Scalar α] in
/-- The session with a new target; a negative one counts as zero. -/
def setTarget (session : Session α M) (milliseconds : Int32) : Session α M :=
  { session with target := if milliseconds < 0 then 0 else milliseconds }

/-- The session with an explicit report rate, which must be positive. -/
def setRate (session : Session α M) (milliseconds : Int32) : Except Fault (Session α M) :=
  if milliseconds ≤ 0 then .error (.invalidReportRate milliseconds)
  else .ok { session with rate := session.rate.override (milliseconds.toInt : α) }

/-- The target as a scalar. -/
def targetTime (session : Session α M) : α := (session.target.toInt : α)

/-- How many samples the caller expects: known once the rate was given. -/
def expected? (session : Session α M) : Option Nat :=
  match session.rate with
  | .overridden rate => some (Scalar.ceilNat (session.targetTime / rate))
  | _ => none

/-! ### Predictions -/

/-- Holds of a session that can predict: the strategy is ready or the rate was given, and the rate
is one that a time can be divided by. -/
def canPredict (session : Session α M) : Bool :=
  (session.expected?.isSome || strategy.isReady session.memory) && session.rate.isUsable

/-- How many samples the strategy walks, at most as many as expected. -/
def steps (session : Session α M) : Nat :=
  let nominal := strategy.horizon session.memory session.targetTime session.rate.milliseconds
  match session.expected? with
  | some expected => Nat.min nominal expected
  | none => nominal

/-- The strategy's forecast from where the session stands. -/
def forecast (session : Session α M) : Forecast α :=
  strategy.walk session.memory session.furthest session.rate.milliseconds (session.steps strategy)

/-- The strategy's own prediction, if the session can predict. -/
def predict (session : Session α M) : Session α M × Option (Prediction α) :=
  if session.canPredict strategy then
    let forecast := session.forecast strategy
    ({ session with furthest := forecast.furthest }, some ⟨session.pointer, forecast.samples⟩)
  else (session, none)

/-- The sample that stands for what lies beyond a prediction: the furthest point predicted, or else
the accepted position. -/
def padding (session : Session α M) : Coords α :=
  session.furthest.getD
    (boundedSample (lastPosition (session.last strategy)) (strategy.restPressure session.memory))

/-- The prediction filled up to the expected number of samples. -/
def pad (session : Session α M) (prediction : Option (Prediction α)) :
    Option (Prediction α) :=
  match session.expected? with
  | none => prediction
  | some expected =>
    let held := (prediction.map (·.length)).getD 0
    if expected ≤ held then prediction
    else
      let start := prediction.getD ⟨session.pointer, []⟩
      some (start.append (List.replicate (expected - held) (session.padding strategy)))

/-- The strategy's prediction, filled up to the expected number of samples. -/
def predictPadded (session : Session α M) : Session α M × Option (Prediction α) :=
  let (next, prediction) := session.predict strategy
  (next, next.pad strategy prediction)

end Session

end PointerForecast
