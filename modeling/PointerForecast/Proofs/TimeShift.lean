/-
**A replay does not know when it takes place.**

Let every event of a trace come later, or earlier, by the same time. As long as no time leaves the
range, the replay gives the same frames at the moved times, and the same counts. What a session reads of
two times is their difference and which of them is within a window of the other one. Both are kept in
the range of times, but a difference depends on nothing but the unbounded one, and the end of the
range decides no repetition.

* `delay`, `delay_steady`: an observation and the later one that stands for it; differences and
  windows do not move.
* `Session.frames_delayed`: **the frames of a session**, whose strategy carries the delay over.
* `Predictor.replay_delayed`: the theorem.
-/

import PointerForecast.Proofs.RigidMotion

namespace PointerForecast

variable {α M : Type}

/-! ### Later times -/

/-- Holds of a time that can be moved by some milliseconds. -/
def Timestamp.CanMove (milliseconds : Int) (time : Timestamp) : Prop :=
  Int64.minValue.toInt ≤ time.toInt + milliseconds ∧
    time.toInt + milliseconds ≤ Int64.maxValue.toInt

instance (milliseconds : Int) (time : Timestamp) : Decidable (time.CanMove milliseconds) :=
  inferInstanceAs (Decidable (_ ∧ _))

theorem Timestamp.toInt_shift {milliseconds : Int} {time : Timestamp}
    (within : time.CanMove milliseconds) :
    (time.shift milliseconds).toInt = time.toInt + milliseconds :=
  Int64.toInt_ofIntClamp within.1 within.2

/-- The event some milliseconds later. -/
def MotionEvent.delayed (milliseconds : Int) : MotionEvent α → MotionEvent α :=
  MotionEvent.moved (Timestamp.shift · milliseconds) id

/-- The frame some milliseconds later. -/
def Frame.delayed (milliseconds : Int) (frame : Frame α) : Frame α :=
  { frame with time? := frame.time?.map (Timestamp.shift · milliseconds) }

/-- The report with all its frames some milliseconds later. -/
def Report.delayed (milliseconds : Int) (report : Report α) : Report α :=
  { report with frames := report.frames.map (Frame.delayed milliseconds) }

theorem MotionEvent.time?_delayed (milliseconds : Int) (event : MotionEvent α) :
    (event.delayed milliseconds).time? = event.time?.map (Timestamp.shift · milliseconds) := by
  simp only [time?, delayed, moved, List.getLast?_map, Option.map_map]
  rfl

/-! ### Frames -/

/-- Frames with the same answers and the same times are equal. -/
theorem Frame.ext_of_answer {frames others : List (Frame α)}
    (answers : frames.map answer = others.map answer)
    (times : frames.map Frame.time? = others.map Frame.time?) : frames = others := by
  induction frames generalizing others with
  | nil => exact (List.map_eq_nil_iff.mp answers.symm).symm
  | cons frame rest ih =>
    obtain ⟨other, later, rfl, one, more⟩ := List.map_eq_cons_iff.mp answers.symm
    rw [List.map_cons, List.map_cons, List.cons.injEq] at times
    obtain ⟨handled, prediction⟩ := Prod.mk.inj one
    rw [ih more.symm times.2, Frame.ext times.1 handled.symm prediction.symm]

theorem Session.times_frames [Scalar α] (strategy : Strategy α M) (session : Session α M)
    (events : List (MotionEvent α)) :
    (session.frames strategy events).map Frame.time? = events.map MotionEvent.time? := by
  induction events generalizing session with
  | nil => rfl
  | cons event rest ih =>
    have now : (session.step strategy event).2.time? = event.time? := by
      rw [step_eq]
      split <;> rfl
    rw [frames_cons, List.map_cons, List.map_cons, now, ih]

/-! ### Neither strategy notices -/

/-- An observation stands for one that is some milliseconds earlier. -/
def delay (milliseconds : Int) : Correspondence α where
  seen moment later := later.time.toInt = moment.time.toInt + milliseconds ∧
    later.coords = moment.coords
  placed _ := id

theorem delay_inPlace (milliseconds : Int) : (delay milliseconds : Correspondence α).InPlace where
  coords seen := seen.2
  placed _ := rfl

theorem MotionEvent.corresponds_delayed {milliseconds : Int} {event : MotionEvent α}
    (within : ∀ batch ∈ event.batches, batch.time.CanMove milliseconds) :
    event.Corresponds (delay milliseconds).seen (event.delayed milliseconds) :=
  corresponds_moved fun batch inside _ _ => ⟨Timestamp.toInt_shift (within batch inside), rfl⟩

variable [Scalar α]

theorem delay_steady (milliseconds : Int) : (delay milliseconds : Correspondence α).Steady where
  gap last now := by rw [last.1, now.1, add_sub_add_right_eq_sub]
  rests last now := by rw [last.2, now.2]

/-! ### Replays -/

namespace Session

/-- **The frames of a session**, if its strategy carries the delay over. -/
theorem frames_delayed [Scalar.HoldsRates α] {strategy : Strategy α M} {memory : M → M → Prop}
    {milliseconds : Int} (carries : strategy.Carries (delay milliseconds) memory)
    {settings : PredictorSettings α} {session : Session α M}
    (built : Predictor.configure settings strategy = .ok session) {events : List (MotionEvent α)}
    (within : ∀ event ∈ events, ∀ batch ∈ event.batches, batch.time.CanMove milliseconds) :
    session.frames strategy (events.map (.delayed milliseconds)) =
      (session.frames strategy events).map (Frame.delayed milliseconds) := by
  have alike : List.Forall₂ (MotionEvent.Corresponds (delay milliseconds).seen) events
      (events.map (.delayed milliseconds)) :=
    List.forall₂_map_right_iff.mpr (List.forall₂_same.mpr fun event inside =>
      MotionEvent.corresponds_delayed (within event inside))
  have both := Corresponds.configured carries built
  refine Frame.ext_of_answer ?_ ?_
  · rw [both.frames carries (delay_steady milliseconds) (fun _ => rfl)
      (rateIsGiven_configure built) alike, List.map_map]
    rfl
  · rw [times_frames, List.map_map, List.map_map]
    calc events.map (MotionEvent.time? ∘ .delayed milliseconds)
        = (events.map MotionEvent.time?).map (Option.map (Timestamp.shift · milliseconds)) := by
          rw [List.map_map]
          exact List.map_congr_left fun event _ => MotionEvent.time?_delayed milliseconds event
      _ = ((session.frames strategy events).map Frame.time?).map
            (Option.map (Timestamp.shift · milliseconds)) := by rw [times_frames]
      _ = (session.frames strategy events).map (Frame.time? ∘ Frame.delayed milliseconds) :=
          List.map_map

end Session

namespace Predictor

/-- **A replay does not know when it takes place.** If all times of some events can be moved by the
same number of milliseconds, replaying them there gives the same frames at the moved times, and the
same counts. -/
theorem replay_delayed {settings : PredictorSettings Float} {start : Predictor Float}
    (built : ofSettings settings = .ok start) (milliseconds : Int)
    {events : List (MotionEvent Float)}
    (within : ∀ event ∈ events, ∀ batch ∈ event.batches, batch.time.CanMove milliseconds) :
    start.replay (events.map (.delayed milliseconds)) =
      (start.replay events).delayed milliseconds := by
  have frames : (start.replay (events.map (.delayed milliseconds))).frames =
      (start.replay events).frames.map (Frame.delayed milliseconds) := by
    rw [frames_replay, frames_replay]
    have inPlace := delay_inPlace (α := Float) milliseconds
    rcases ofSettings_eq_ok built with
      ⟨_, session, configured, rfl⟩ | ⟨_, session, configured, rfl⟩
    · rw [(wraps_kalman _).run, (wraps_kalman _).run]
      exact Session.frames_delayed (inPlace.kalman_carries _) configured within
    · rw [(wraps_linear _).run, (wraps_linear _).run]
      exact Session.frames_delayed
        (linear_carries _ inPlace.rigid (delay_steady milliseconds)) configured within
  have answers : (start.replay (events.map (.delayed milliseconds))).frames.map Frame.answer =
      (start.replay events).frames.map Frame.answer := by
    rw [frames, List.map_map]
    rfl
  exact Report.ext frames (summary_congr answers)

/-- A stroke between the two ends of time, so that a difference leaves the range, with a repetition
whose window reaches past the end: 1000 ms earlier the frames and the counts are the same. -/
theorem replay_delayed_endOfTime :
    let settings : PredictorSettings Float := .usual
    let events : List (MotionEvent Float) :=
      [⟨.down, [4], [⟨Int64.minValue + 1000, [⟨1, 2, 0.5⟩]⟩, ⟨Int64.maxValue - 5, [⟨3, 4, 0.5⟩]⟩]⟩,
        ⟨.move, [4], [⟨Int64.maxValue, [⟨3, 4, 1⟩]⟩]⟩]
    ∃ start, ofSettings settings = .ok start ∧
      (∀ event ∈ events, ∀ batch ∈ event.batches, batch.time.CanMove (-1000)) ∧
      start.replay (events.map (.delayed (-1000))) = (start.replay events).delayed (-1000) := by
  intro settings events
  obtain ⟨start, built⟩ : ∃ start, ofSettings settings = .ok start := ⟨_, rfl⟩
  have within : ∀ event ∈ events, ∀ batch ∈ event.batches, batch.time.CanMove (-1000) := by
    decide
  exact ⟨start, built, within, replay_delayed built (-1000) within⟩

end Predictor

end PointerForecast
