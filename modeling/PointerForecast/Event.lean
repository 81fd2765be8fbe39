/-
**Pointer events and predictions.**

Input arrives as motion events: an action and one or more batches, oldest first, each with the
coordinates of every pointer at one time. The position of a pointer in `pointers` is its position in
every batch. A prediction is a list of coordinates for one pointer, nearest first, without times.

* `MotionEvent.check` — **the shape of an event**: at least one batch, and one entry per pointer in
  each.
* `MotionEvent.trackOf` — what an event says about one pointer.
-/

import PointerForecast.Scalar
import PointerForecast.Fault

namespace PointerForecast

/-- The identity of a contact. -/
abbrev PointerId := Int32

/-- A time in milliseconds. -/
abbrev Timestamp := Int64

/-- The position and the pressure of one pointer, observed or predicted. -/
@[ext]
structure Coords (α : Type) where
  /-- The horizontal coordinate. -/
  x : α
  /-- The vertical coordinate. -/
  y : α
  /-- The pressure, from 0 to 1 in device units. -/
  pressure : α
deriving DecidableEq

/-- The coordinates of all pointers at one time. -/
@[ext]
structure Batch (α : Type) where
  /-- The time of the batch. -/
  time : Timestamp
  /-- One entry per pointer of the event, in the order of the event's pointers. -/
  coords : List (Coords α)
deriving DecidableEq

/-- What happened to the pointers of an event. -/
inductive Action where
  /-- The first contact of a stroke. -/
  | down
  /-- A contact moved. -/
  | move
  /-- A contact was lifted. -/
  | up
  /-- The platform aborted the gesture. -/
  | cancel
deriving DecidableEq, Repr

/-- The name of an action in answers. -/
def Action.name : Action → String
  | .down => "Down"
  | .move => "Move"
  | .up => "Up"
  | .cancel => "Cancel"

/-- One observation of one pointer. -/
@[ext]
structure Moment (α : Type) where
  /-- When it was made. -/
  time : Timestamp
  /-- What was observed. -/
  coords : Coords α
deriving DecidableEq

/-- An action with the batched observations that led to it. -/
@[ext]
structure MotionEvent (α : Type) where
  /-- What happened. -/
  action : Action
  /-- The pointers that are down. -/
  pointers : List PointerId
  /-- The observations, oldest first. -/
  batches : List (Batch α)
deriving DecidableEq

namespace MotionEvent

variable {α : Type}

/-- The first fault in the shape of an event. -/
def fault? (event : MotionEvent α) : Option Fault :=
  match event.batches with
  | [] => some .emptyEvent
  | batches =>
    (batches.find? fun batch => batch.coords.length ≠ event.pointers.length).map fun batch =>
      .pointerCountMismatch event.pointers.length batch.coords.length

/-- The event itself, unless its shape has a fault. -/
def check (event : MotionEvent α) : Except Fault (MotionEvent α) :=
  match event.fault? with
  | some fault => .error fault
  | none => .ok event

/-- The first position of a pointer among the event's pointers. -/
def indexOf? (event : MotionEvent α) (pointer : PointerId) : Option Nat :=
  event.pointers.findIdx? (· == pointer)

/-- The observations of the pointer at one position, oldest first. A batch without an entry at that
position is passed over. -/
def history (event : MotionEvent α) (index : Nat) : List (Moment α) :=
  event.batches.filterMap fun batch => batch.coords[index]?.map (⟨batch.time, ·⟩)

/-- The observations of one pointer, unless the event does not carry it. -/
def trackOf (event : MotionEvent α) (pointer : PointerId) : Option (List (Moment α)) :=
  (event.indexOf? pointer).map event.history

/-- The time of the latest batch. -/
def time? (event : MotionEvent α) : Option Timestamp :=
  event.batches.getLast?.map (·.time)

/-- Holds of the platform's signal that the gesture is aborted. -/
def isCancel (event : MotionEvent α) : Bool := event.action == .cancel

end MotionEvent

/-! ### Predictions -/

/-- The predicted coordinates of one pointer, nearest first. -/
@[ext]
structure Prediction (α : Type) where
  /-- The pointer that the prediction is about. -/
  pointer : PointerId
  /-- The predicted coordinates. -/
  samples : List (Coords α)
deriving DecidableEq

namespace Prediction

variable {α : Type}

/-- The number of predicted samples. -/
def length (prediction : Prediction α) : Nat := prediction.samples.length

/-- The prediction with a batch of samples after its own. -/
def append (prediction : Prediction α) (batch : List (Coords α)) : Prediction α :=
  { prediction with samples := prediction.samples ++ batch }

/-- The furthest predicted sample. -/
def last? (prediction : Prediction α) : Option (Coords α) := prediction.samples.getLast?

end Prediction

end PointerForecast
