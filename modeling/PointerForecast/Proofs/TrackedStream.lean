/-
**Only the stream of the tracked pointer matters.**

An event may carry several pointers, in any order, and several observations of each; an event may
also not carry the tracked pointer at all. A session reads nothing of this but the observations of
the tracked pointer, one after another. So two lists of events with the same stream of that pointer
lead to the same session, however the stream is cut into batches, and whatever other pointers did.

* `MotionEvent.isSome_trackOf`: when an event carries a pointer.
* `trackedStream`: the observations of one pointer in some events.
* `Session.observe_of_active`: **one event** is the fold of its part of the stream.
* `Session.stateAfter_observe`: **any events** are the fold of their stream.
* `Session.stateAfter_of_trackedStream`: the session depends on the stream alone.
-/

import PointerForecast.Proofs.Setup
import PointerForecast.Strategy.Kalman
import PointerForecast.Scalar.Double

namespace PointerForecast

variable {α M : Type}

/-! ### The stream of a pointer -/

namespace MotionEvent

/-- An event that carries one observation of one pointer and nothing else. -/
def single (action : Action) (pointer : PointerId) (moment : Moment α) : MotionEvent α :=
  ⟨action, [pointer], [⟨moment.time, [moment.coords]⟩]⟩

theorem trackOf_single (action : Action) (pointer : PointerId) (moment : Moment α) :
    (single action pointer moment).trackOf pointer = some [moment] := by
  simp [single, trackOf, indexOf?, history, List.findIdx?_cons]

theorem isSome_trackOf {event : MotionEvent α} {pointer : PointerId} :
    (event.trackOf pointer).isSome ↔ pointer ∈ event.pointers := by
  unfold trackOf indexOf?
  simp [List.findIdx?_isSome]

theorem trackOf_eq_none {event : MotionEvent α} {pointer : PointerId}
    (absent : pointer ∉ event.pointers) : event.trackOf pointer = none := by
  rw [← Option.not_isSome_iff_eq_none, isSome_trackOf]
  exact absent

end MotionEvent

/-- The observations of one pointer in those of some events that carry it, in order. -/
def trackedStream (pointer : PointerId) (events : List (MotionEvent α)) : List (Moment α) :=
  (events.filterMap (·.trackOf pointer)).flatten

theorem trackedStream_cons (pointer : PointerId) (event : MotionEvent α)
    (rest : List (MotionEvent α)) :
    trackedStream pointer (event :: rest) =
      (event.trackOf pointer).getD [] ++ trackedStream pointer rest := by
  unfold trackedStream
  cases carried : event.trackOf pointer with
  | none => simp [carried]
  | some moments => simp [carried]

theorem trackedStream_single (action : Action) (pointer : PointerId) (moments : List (Moment α)) :
    trackedStream pointer (moments.map (MotionEvent.single action pointer)) = moments := by
  induction moments with
  | nil => rfl
  | cons moment rest ih =>
    rw [List.map_cons, trackedStream_cons, ih, MotionEvent.trackOf_single]
    rfl

/-! ### One session -/

variable [Scalar α]

namespace Session

variable (strategy : Strategy α M)

theorem pointer_foldl_take (session : Session α M) (moments : List (Moment α)) :
    (moments.foldl (take strategy) session).pointer = session.pointer :=
  congrArg Setup.pointer (setup_foldl_take strategy session moments)

/-- **One event** is the fold of what it says about the tracked pointer. -/
theorem observe_of_active (session : Session α M) {event : MotionEvent α}
    (active : event.isCancel = false) :
    session.observe strategy event =
      (((event.trackOf session.pointer).getD []).foldl (take strategy) session,
        (event.trackOf session.pointer).isSome) := by
  unfold observe
  rw [active]
  cases event.trackOf session.pointer <;> simp

/-- **Any events** are the fold of their stream. -/
theorem stateAfter_observe (session : Session α M) {events : List (MotionEvent α)}
    (active : ∀ event ∈ events, event.isCancel = false) :
    stateAfter (apply strategy) session (events.map .observe) =
      (trackedStream session.pointer events).foldl (take strategy) session := by
  induction events generalizing session with
  | nil => rfl
  | cons event rest ih =>
    have first : (session.apply strategy (.observe event)).1 =
        ((event.trackOf session.pointer).getD []).foldl (take strategy) session := by
      show (session.observe strategy event).1 = _
      rw [observe_of_active strategy session (active event List.mem_cons_self)]
    have others : ∀ event ∈ rest, event.isCancel = false := by
      intro event later
      exact active event (List.mem_cons_of_mem _ later)
    rw [List.map_cons, stateAfter_cons, first, ih _ others, pointer_foldl_take, trackedStream_cons,
      List.foldl_append]

/-- **A session depends on the stream of its pointer alone.** Events that are not cancelled and have
the same stream of the tracked pointer lead to the same session, and so to the same answers later.
In particular any events lead where the observations of their stream lead when each comes in an
event of its own, whatever the action. An event without the tracked pointer changes nothing and is
not handled. -/
theorem stateAfter_of_trackedStream (session : Session α M) :
    (∀ first second : List (MotionEvent α),
      (∀ event ∈ first ++ second, event.isCancel = false) →
      trackedStream session.pointer first = trackedStream session.pointer second →
      stateAfter (apply strategy) session (first.map .observe) =
          stateAfter (apply strategy) session (second.map .observe) ∧
        ∀ later,
          answersTo (apply strategy) (stateAfter (apply strategy) session (first.map .observe))
              later =
            answersTo (apply strategy) (stateAfter (apply strategy) session (second.map .observe))
              later) ∧
    (∀ events : List (MotionEvent α), (∀ event ∈ events, event.isCancel = false) →
      ∀ action, action ≠ .cancel →
        stateAfter (apply strategy) session (events.map .observe) =
          stateAfter (apply strategy) session
            (((trackedStream session.pointer events).map (.single action session.pointer)).map
              .observe)) ∧
    ∀ event : MotionEvent α, event.isCancel = false → session.pointer ∉ event.pointers →
      session.observe strategy event = (session, false) := by
  have together (first second : List (MotionEvent α))
      (active : ∀ event ∈ first ++ second, event.isCancel = false)
      (same : trackedStream session.pointer first = trackedStream session.pointer second) :
      stateAfter (apply strategy) session (first.map .observe) =
        stateAfter (apply strategy) session (second.map .observe) := by
    rw [stateAfter_observe strategy session fun event member =>
        active event (List.mem_append_left _ member),
      stateAfter_observe strategy session fun event member =>
        active event (List.mem_append_right _ member), same]
  refine ⟨?_, ?_, ?_⟩
  · intro first second active same
    have states := together first second active same
    refine ⟨states, ?_⟩
    intro later
    rw [states]
  · intro events active action goesOn
    refine together _ _ ?_ (trackedStream_single action session.pointer _).symm
    intro event member
    rcases List.mem_append.mp member with given | alone
    · exact active event given
    · obtain ⟨moment, _, rfl⟩ := List.mem_map.mp alone
      exact beq_eq_false_iff_ne.mpr goesOn
  · intro event active absent
    rw [observe_of_active strategy session active, MotionEvent.trackOf_eq_none absent]
    rfl

/-- Pointer 4 in a batch of two observations beside pointer 1, or in two events with one of pointer 1
between them: the same stream, and the same session. -/
theorem stateAfter_of_trackedStream_batched :
    let session : Session Float (Tracker Float) :=
      (Session.start (kalman .ink)).beginStroke (kalman .ink) 4
    let first : List (MotionEvent Float) :=
      [⟨.move, [1, 4], [⟨0, [⟨9, 9, 1⟩, ⟨1, 2, 0.5⟩]⟩, ⟨8, [⟨8, 9, 1⟩, ⟨3, 4, 0.5⟩]⟩]⟩]
    let second : List (MotionEvent Float) :=
      [⟨.down, [4], [⟨0, [⟨1, 2, 0.5⟩]⟩]⟩, ⟨.move, [1], [⟨5, [⟨7, 7, 1⟩]⟩]⟩,
        ⟨.up, [4, 1], [⟨8, [⟨3, 4, 0.5⟩]⟩, ⟨9, []⟩]⟩]
    (∀ event ∈ first ++ second, event.isCancel = false) ∧
      trackedStream 4 first = trackedStream 4 second ∧
      stateAfter (apply (kalman .ink)) session (first.map .observe) =
        stateAfter (apply (kalman .ink)) session (second.map .observe) := by
  intro session first second
  have active : ∀ event ∈ first ++ second, event.isCancel = false := by
    simp [first, second, MotionEvent.isCancel]
  have same : trackedStream 4 first = trackedStream 4 second := rfl
  have states := (stateAfter_of_trackedStream (kalman .ink) session).1 first second active same
  exact ⟨active, same, states.1⟩

end Session

end PointerForecast
