/-
**Repetitions leave no trace.**

An observation that repeats the one accepted before it is dropped: its position compares equal, and
it is at most twenty milliseconds later. What counts is the observation accepted last, not the one
seen last, so a pointer that rests is heard of every now and then. Times are compared as unbounded
integers; that a session keeps a moved time within its range never changes what is dropped.

A stream and its `distinct` observations lead to the same session, so whatever a session remembers,
a dropped observation has no part in it.

* `Moment.repeats`, `distinct`: the rule, in unbounded integers.
* `Moment.isRepeatedBy_eq_repeats`: **keeping times in range changes no decision.**
* `accepted_none`: the observations accepted at the start of a stroke are the distinct ones.
* `Session.repetitions_leaveNoTrace`: **a stream and its distinct observations.**
-/

import PointerForecast.Proofs.Lockstep
import PointerForecast.Proofs.TrackedStream

namespace PointerForecast

variable {α M : Type}

/-! ### The rule -/

section Rule

variable [Scalar α]

/-- Holds of an observation that repeats a previous one: the same position, at most twenty
milliseconds later. -/
def Moment.repeats (next previous : Moment α) : Bool :=
  next.coords.x == previous.coords.x && next.coords.y == previous.coords.y
    && next.time.toInt ≤ previous.time.toInt + 20

/-- The observations that do not repeat the one kept before them, after a given one. -/
def distinctAfter (last : Moment α) : List (Moment α) → List (Moment α)
  | [] => []
  | next :: rest =>
    if next.repeats last then distinctAfter last rest else next :: distinctAfter next rest

/-- The first observation, and those that do not repeat the one kept before them. -/
def distinct : List (Moment α) → List (Moment α)
  | [] => []
  | first :: rest => first :: distinctAfter first rest

theorem distinctAfter_distinctAfter (last : Moment α) (moments : List (Moment α)) :
    distinctAfter last (distinctAfter last moments) = distinctAfter last moments := by
  induction moments generalizing last with
  | nil => rfl
  | cons next rest ih =>
    by_cases repetition : next.repeats last = true
    · simp only [distinctAfter, if_pos repetition, ih]
    · simp only [distinctAfter, if_neg repetition, ih]

/-- Nothing is left to drop. -/
theorem distinct_distinct (moments : List (Moment α)) :
    distinct (distinct moments) = distinct moments := by
  cases moments with
  | nil => rfl
  | cons first rest => rw [distinct, distinct, distinctAfter_distinctAfter]

/-! ### The rule of a session -/

omit [Scalar α] in
/-- No time lies between a moved one and the end of the range. -/
theorem Timestamp.le_shift_iff (time next : Timestamp) :
    next ≤ time.shift repeatWindow ↔ next.toInt ≤ time.toInt + 20 := by
  have least := Int64.le_toInt time
  have most := Int64.toInt_le next
  have window : time.toInt + repeatWindow = time.toInt + 20 := rfl
  rw [Int64.le_iff_toInt_le, shift, window]
  by_cases within : time.toInt + 20 ≤ Int64.maxValue.toInt
  · rw [Int64.toInt_ofIntClamp (by rw [Int64.toInt_minValue]; omega) within]
  · have end' : Int64.ofIntClamp (time.toInt + 20) = Int64.maxValue := by
      unfold Int64.ofIntClamp
      rw [dif_pos (by rw [Int64.toInt_minValue]; omega), dif_neg within]
    rw [end']
    rw [Int64.toInt_maxValue] at most within ⊢
    omega

theorem Moment.isRepeatedBy_eq_repeats (previous next : Moment α) :
    previous.isRepeatedBy next = next.repeats previous := by
  unfold isRepeatedBy repeats
  rw [decide_eq_decide.mpr (Timestamp.le_shift_iff previous.time next.time)]

theorem accepted_some (last : Moment α) (moments : List (Moment α)) :
    accepted (some last) moments = distinctAfter last moments := by
  induction moments generalizing last with
  | nil => rfl
  | cons next rest ih =>
    rw [accepted, distinctAfter, Option.any_some, Moment.isRepeatedBy_eq_repeats, ih, ih]

theorem accepted_none (moments : List (Moment α)) : accepted none moments = distinct moments := by
  cases moments with
  | nil => rfl
  | cons first rest =>
    rw [accepted, distinct, accepted_some]
    rfl

end Rule

/-! ### Sessions -/

namespace Session

/-- Holds of a session at the start of a stroke: nothing of one is remembered. -/
def AtStart (strategy : Strategy α M) (session : Session α M) : Prop :=
  session.clear strategy = session

variable {strategy : Strategy α M} {session : Session α M}

theorem AtStart.memory (atStart : session.AtStart strategy) : session.memory = strategy.blank :=
  (congrArg Session.memory atStart).symm

theorem AtStart.last (atStart : session.AtStart strategy) : session.last strategy = none := by
  unfold Session.last
  rw [atStart.memory, strategy.last_blank]

variable [Scalar α]

/-- A new session is at the start of a stroke, and so is one that begins or cancels a stroke. -/
theorem atStart_cases (strategy : Strategy α M) (session : Session α M) :
    (start strategy).AtStart strategy ∧
      (∀ pointer, (session.beginStroke strategy pointer).AtStart strategy) ∧
      ∀ event : MotionEvent α, event.isCancel = true →
        (session.observe strategy event).1.AtStart strategy := by
  refine ⟨rfl, fun pointer => rfl, ?_⟩
  intro event cancelled
  unfold observe
  rw [if_pos cancelled]
  rfl

theorem last_foldl_accept (strategy : Strategy α M) (session : Session α M)
    (moments : List (Moment α)) :
    (moments.foldl (accept strategy) session).last strategy =
      moments.getLast?.or (session.last strategy) := by
  induction moments generalizing session with
  | nil => rfl
  | cons moment rest ih =>
    rw [List.foldl_cons, ih, last_accept, List.getLast?_cons]
    cases rest.getLast? <;> rfl

theorem count_foldl_accept (noise : Noise α) (session : Session α (Tracker α))
    (moments : List (Moment α)) :
    (moments.foldl (accept (kalman noise)) session).memory.count =
      session.memory.count + moments.length := by
  induction moments generalizing session with
  | nil => rfl
  | cons moment rest ih =>
    have one : (session.accept (kalman noise) moment).memory.count = session.memory.count + 1 :=
      Tracker.count_absorb noise session.memory moment
    rw [List.foldl_cons, ih, one, List.length_cons]
    omega

/-- At the start of a stroke, a stream is taken by accepting its distinct observations. -/
theorem AtStart.foldl_take (atStart : session.AtStart strategy) (moments : List (Moment α)) :
    moments.foldl (take strategy) session =
      (distinct moments).foldl (accept strategy) session := by
  rw [Session.foldl_take, atStart.last, accepted_none]

theorem AtStart.last_foldl_take (atStart : session.AtStart strategy) (moments : List (Moment α)) :
    (moments.foldl (take strategy) session).last strategy = (distinct moments).getLast? := by
  rw [atStart.foldl_take, last_foldl_accept, atStart.last, Option.or_none]

/-- **Repetitions leave no trace.** At the start of a stroke, with either strategy, a stream of
observations of the tracked pointer leads where its distinct observations lead. All of those are
accepted, the last of them is the one accepted last, and the filter has counted as many. An
observation that repeats the one kept before it leaves the session as it was. The events in which
the stream comes do not matter. -/
theorem repetitions_leaveNoTrace :
    (∀ {M : Type} (strategy : Strategy α M) (session : Session α M),
      (start strategy).AtStart strategy ∧
        (∀ pointer, (session.beginStroke strategy pointer).AtStart strategy) ∧
        ∀ event : MotionEvent α, event.isCancel = true →
          (session.observe strategy event).1.AtStart strategy) ∧
    (∀ {M : Type} {strategy : Strategy α M} {session : Session α M},
      session.AtStart strategy → ∀ moments : List (Moment α),
        let kept := distinct moments
        let fed := moments.foldl (take strategy) session
        fed = kept.foldl (take strategy) session ∧
        fed = kept.foldl (accept strategy) session ∧
        distinct kept = kept ∧
        fed.last strategy = kept.getLast? ∧
        (∀ events : List (MotionEvent α), (∀ event ∈ events, event.isCancel = false) →
          trackedStream session.pointer events = moments →
          stateAfter (apply strategy) session (events.map .observe) = fed) ∧
        ∀ before moment after, moments = before ++ moment :: after →
          (distinct before).getLast?.any moment.repeats = true →
          (before ++ [moment]).foldl (take strategy) session =
            before.foldl (take strategy) session) ∧
    ∀ {noise : Noise α} {session : Session α (Tracker α)},
      session.AtStart (kalman noise) → ∀ moments : List (Moment α),
        (moments.foldl (take (kalman noise)) session).memory.count =
          (distinct moments).length := by
  refine ⟨atStart_cases, ?_, ?_⟩
  · intro M strategy session atStart moments kept fed
    have taken : fed = kept.foldl (accept strategy) session := atStart.foldl_take moments
    have settled : distinct kept = kept := distinct_distinct moments
    refine ⟨?_, taken, settled, atStart.last_foldl_take moments, ?_, ?_⟩
    · rw [atStart.foldl_take, settled]
      exact taken
    · intro events active stream
      rw [stateAfter_observe strategy session active, stream]
    · intro before moment after split repetition
      have dropped : (before.foldl (take strategy) session).isRepetition strategy moment = true := by
        rw [isRepetition_eq_any, atStart.last_foldl_take]
        simpa only [Moment.isRepeatedBy_eq_repeats] using repetition
      rw [List.foldl_append, List.foldl_cons, List.foldl_nil, take, if_pos dropped]
  · intro noise session atStart moments
    have nothing : session.memory.count = 0 := by
      rw [atStart.memory]
      rfl
    rw [atStart.foldl_take, count_foldl_accept, nothing, Nat.zero_add]

/-- A pointer that rests near the end of time: the observation after 15 ms is dropped, although its
window reaches past the range of times, and so is the one with a zero of the other sign. The one
after 21 ms is kept, although the one before it was only 6 ms ago. -/
theorem repetitions_leaveNoTrace_resting :
    let session : Session Float (Tracker Float) := Session.start (kalman .ink)
    let near : Timestamp := Int64.maxValue - 21
    let first : Moment Float := ⟨near, ⟨0, 2, 0.5⟩⟩
    let later : Moment Float := ⟨Int64.maxValue, ⟨0, 2, 0.5⟩⟩
    let moments := [first, ⟨near + 15, ⟨0, 2, 0.5⟩⟩, ⟨near + 15, ⟨-0, 2, 1⟩⟩, later]
    session.AtStart (kalman .ink) ∧ distinct moments = [first, later] ∧
      moments.foldl (take (kalman .ink)) session =
        [first, later].foldl (accept (kalman .ink)) session ∧
      (moments.foldl (take (kalman .ink)) session).memory.count = 2 := by
  intro session near first later moments
  have atStart : session.AtStart (kalman .ink) := rfl
  have kept : distinct moments = [first, later] := by decide +kernel
  have taken := (repetitions_leaveNoTrace.2.1 atStart moments).2.1
  have counted := repetitions_leaveNoTrace.2.2 atStart moments
  rw [kept] at taken counted
  exact ⟨atStart, kept, taken, counted⟩

end Session

end PointerForecast
