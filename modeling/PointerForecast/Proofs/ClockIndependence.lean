/-
**With an explicit rate the filter keeps no clock.**

A session looks at the time to estimate the rate of the reports and to tell a repetition from a new
observation. A rate that was given is never estimated again, and where no observation has the position
of the one before it there is no repetition to tell. The filter itself counts reports. Two traces that
differ in their times alone then lead to the same answers, whatever the times are.

* `strokes`: what a trace shows of the tracked pointers, stroke by stroke.
* `Session.NeverRests`: no event to come shows the tracked pointer twice in a row at one place;
  `NeverRests.record` is **one event**, of which every observation is accepted.
* `Session.answers_untimed`: **sessions of the filter** that see the same at other times.
* `Predictor.clock_isIgnored`: the theorem.
-/

import PointerForecast.Proofs.RigidMotion

namespace PointerForecast

variable {α M : Type}

/-! ### Traces without times -/

/-- The event with its times forgotten. -/
def MotionEvent.untimed : MotionEvent α → MotionEvent α := moved (fun _ => 0) id

/-- An observation stands for any other one of the same coordinates. -/
def anyTime : Correspondence α where
  seen moment other := other.coords = moment.coords
  placed _ := id

theorem anyTime_inPlace : (anyTime : Correspondence α).InPlace := ⟨id, fun _ => rfl⟩

theorem MotionEvent.corresponds_of_untimed {event other : MotionEvent α}
    (same : event.untimed = other.untimed) : event.Corresponds anyTime.seen other := by
  obtain ⟨action, pointers, batches⟩ := MotionEvent.ext_iff.mp same
  refine ⟨action.symm, pointers.symm, ?_⟩
  have pairs := List.forall₂_eq_eq_eq ▸ batches
  refine (List.forall₂_map_left_iff.mp (List.forall₂_map_right_iff.mp pairs)).imp ?_
  intro batch later alike
  have coords : batch.coords = later.coords := by simpa using congrArg Batch.coords alike
  rw [coords]
  exact List.forall₂_same.mpr fun _ _ => rfl

/-! ### Strokes -/

/-- Where an event shows a pointer. -/
def MotionEvent.placesOf (event : MotionEvent α) (pointer : PointerId) : List (Coords α) :=
  ((event.trackOf pointer).getD []).map Moment.coords

/-- Where some events show the tracked pointer, stroke by stroke, if it was seen at some places in the
current one. A stroke ends with its last event, or where the platform aborts it. -/
def strokesFrom (pointer : PointerId) (current : List (Coords α)) :
    List (MotionEvent α) → List (List (Coords α))
  | [] => [current]
  | event :: rest =>
    if event.isCancel then current :: strokesFrom pointer [] rest
    else match Command.pointer? (.observe event) with
      | some begun => current :: strokesFrom begun (event.placesOf begun) rest
      | none => strokesFrom pointer (current ++ event.placesOf pointer) rest

/-- Where a trace shows the tracked pointer, stroke by stroke; before the first contact it is the
pointer zero. -/
def strokes (events : List (MotionEvent α)) : List (List (Coords α)) := strokesFrom 0 [] events

theorem strokesFrom_eq_cons (pointer : PointerId) (current : List (Coords α))
    (events : List (MotionEvent α)) :
    ∃ more later, strokesFrom pointer current events = (current ++ more) :: later := by
  induction events generalizing current with
  | nil => exact ⟨[], [], by rw [strokesFrom, List.append_nil]⟩
  | cons event rest ih =>
    rw [strokesFrom]
    split
    · exact ⟨[], _, by rw [List.append_nil]⟩
    · cases Command.pointer? (.observe event) with
      | some begun => exact ⟨[], _, by rw [List.append_nil]⟩
      | none =>
        obtain ⟨more, later, same⟩ := ih (current ++ event.placesOf pointer)
        exact ⟨event.placesOf pointer ++ more, later, by rw [← List.append_assoc]; exact same⟩

theorem MotionEvent.Corresponds.placesOf {event other : MotionEvent α}
    (alike : event.Corresponds anyTime.seen other) (pointer : PointerId) :
    other.placesOf pointer = event.placesOf pointer := by
  have seen := alike.track pointer
  refine (List.forall₂_eq_eq_eq ▸ ?_ : event.placesOf pointer = other.placesOf pointer).symm
  exact List.forall₂_map_left_iff.mpr
    (List.forall₂_map_right_iff.mpr (seen.imp fun _ _ same => same.symm))

/-- Times play no part in what the strokes are. -/
theorem strokesFrom_congr {events others : List (MotionEvent α)}
    (alike : List.Forall₂ (MotionEvent.Corresponds anyTime.seen) events others)
    (pointer : PointerId) (current : List (Coords α)) :
    strokesFrom pointer current others = strokesFrom pointer current events := by
  induction alike generalizing pointer current with
  | nil => rfl
  | cons pair _ ih => simp only [strokesFrom, pair.isCancel, pair.pointer?, pair.placesOf, ih]

/-! ### Nothing to drop -/

variable [Scalar α]

/-- Holds of coordinates at another place than the ones before. -/
def Coords.differs (previous next : Coords α) : Bool :=
  !(next.x == previous.x && next.y == previous.y)

/-- Where nothing repeats the place before it, everything is accepted. -/
theorem accepted_of_isChain {last : Option (Moment α)} {moments : List (Moment α)}
    (onward : ∀ previous ∈ last.map Moment.coords, ∀ next ∈ (moments.map Moment.coords).head?,
      previous.differs next = true)
    (chain : (moments.map Moment.coords).IsChain (·.differs ·)) :
    accepted last moments = moments := by
  induction moments generalizing last with
  | nil => rfl
  | cons moment rest ih =>
    have fresh : ¬last.any (·.isRepeatedBy moment) = true := by
      cases last with
      | none => simp
      | some previous =>
        have moved := onward _ rfl _ rfl
        unfold Coords.differs at moved
        rw [Bool.not_eq_eq_eq_not, Bool.not_true] at moved
        rw [Option.any_some, Moment.isRepeatedBy, moved, Bool.false_and]
        exact Bool.false_ne_true
    rw [List.map_cons, List.isChain_cons] at chain
    rw [accepted, if_neg fresh, ih (fun previous same next first => ?_) chain.2]
    obtain rfl : moment.coords = previous := Option.some.inj same
    exact chain.1 next first

namespace Session

/-- Holds if no event to come shows the tracked pointer twice in a row at one place, the observation
accepted last included. -/
def NeverRests (strategy : Strategy α M) (session : Session α M) (events : List (MotionEvent α)) :
    Prop :=
  ∃ current, (session.last strategy).map Moment.coords = current.getLast? ∧
    ∀ stroke ∈ strokesFrom session.pointer current events, stroke.IsChain (·.differs ·)

variable {strategy : Strategy α M} {session : Session α M} {event : MotionEvent α}
  {rest : List (MotionEvent α)}

omit [Scalar α] in
theorem opened_of_isCancel (strategy : Strategy α M) (session : Session α M)
    (cancelled : event.isCancel = true) : session.opened strategy event = session := by
  obtain ⟨action, pointers, batches⟩ := event
  cases action with
  | cancel => rfl
  | _ => cases cancelled

namespace NeverRests

theorem opened (moving : session.NeverRests strategy (event :: rest))
    (going : ¬event.isCancel = true) :
    let opened := session.opened strategy event
    ∃ current, (opened.last strategy).map Moment.coords = current.getLast? ∧
      ∀ stroke ∈ strokesFrom opened.pointer (current ++ event.placesOf opened.pointer) rest,
        stroke.IsChain (·.differs ·) := by
  obtain ⟨current, stands, chains⟩ := moving
  rw [strokesFrom, if_neg going] at chains
  unfold Session.opened
  cases begins : Command.pointer? (.observe event) with
  | none =>
    rw [begins] at chains
    exact ⟨current, stands, chains⟩
  | some begun =>
    rw [begins] at chains
    refine ⟨[], ?_, fun stroke later => chains stroke (List.mem_cons_of_mem _ later)⟩
    rw [Option.elim_some, last_beginStroke]
    rfl

/-- **One event** has all its observations accepted. -/
theorem record (moving : session.NeverRests strategy (event :: rest)) :
    let opened := session.opened strategy event
    opened.acceptedFrom strategy event =
        (if event.isCancel then [] else (event.trackOf opened.pointer).getD []) ∧
      (session.record strategy event).1.NeverRests strategy rest := by
  intro opened
  have kept : (session.record strategy event).1.pointer = opened.pointer := by
    rw [record_eq_observe]
    exact congrArg Setup.pointer (setup_observe strategy opened event)
  have accepts := observe_accepts strategy opened event
  unfold Accepts acceptedFrom at accepts
  unfold acceptedFrom
  by_cases cancelled : event.isCancel = true
  · -- Nothing is accepted, and the rest is seen from the start of a stroke.
    rw [if_pos cancelled] at accepts
    rw [if_pos cancelled, if_pos cancelled]
    refine ⟨rfl, [], ?_, ?_⟩
    · rw [record_eq_observe]
      show ((opened.observe strategy event).1.last strategy).map Moment.coords = _
      rw [accepts.2, last_clear]
      rfl
    · obtain ⟨current, _, chains⟩ := moving
      rw [strokesFrom, if_pos cancelled] at chains
      rw [kept, show opened = session from opened_of_isCancel strategy session cancelled]
      exact fun stroke later => chains stroke (List.mem_cons_of_mem _ later)
  · -- What is observed continues the current stroke, so it has no repetition within or at its start.
    obtain ⟨current, stands, chains⟩ := moving.opened cancelled
    obtain ⟨more, later, head⟩ :=
      strokesFrom_eq_cons opened.pointer (current ++ event.placesOf opened.pointer) rest
    have chain := chains _ (by rw [head]; exact List.mem_cons_self)
    obtain ⟨_, chain, onward⟩ := List.isChain_append.mp (List.isChain_append.mp chain).1
    have all : accepted (opened.last strategy) ((event.trackOf opened.pointer).getD []) =
        (event.trackOf opened.pointer).getD [] :=
      accepted_of_isChain (fun previous known => onward previous (stands ▸ known)) chain
    rw [if_neg cancelled, if_neg cancelled, all] at accepts
    rw [if_neg cancelled, if_neg cancelled]
    refine ⟨all, current ++ event.placesOf opened.pointer, ?_, kept ▸ chains⟩
    rw [record_eq_observe]
    calc ((opened.observe strategy event).1.last strategy).map Moment.coords
        = ((((event.trackOf opened.pointer).getD []).getLast?).or (opened.last strategy)).map
            Moment.coords := by rw [accepts, last_foldl_accept]
      _ = (event.placesOf opened.pointer).getLast?.or current.getLast? := by
          rw [Option.map_or, stands, MotionEvent.placesOf, List.getLast?_map]
      _ = (current ++ event.placesOf opened.pointer).getLast? := List.getLast?_append.symm

theorem step (moving : session.NeverRests strategy (event :: rest)) :
    (session.step strategy event).1.NeverRests strategy rest := by
  have next := moving.record.2
  rw [step_eq]
  by_cases handled : (session.record strategy event).2 = true
  · obtain ⟨_, same⟩ := predictPadded_fst strategy (session.record strategy event).1
    simp only [if_pos handled]
    rw [same]
    exact next
  · simp only [if_neg handled]
    exact next

end NeverRests

/-! ### The filter -/

theorem rate?_step (strategy : Strategy α M) (session : Session α M) (event : MotionEvent α) :
    (session.step strategy event).1.setup.rate? = session.setup.rate? := by
  have recorded : (session.record strategy event).1.setup.rate? = session.setup.rate? := by
    rw [setup_record]
  rw [step_eq]
  by_cases handled : (session.record strategy event).2 = true
  · simp only [if_pos handled]
    exact (congrArg Setup.rate? (setup_predict strategy _)).trans recorded
  · simp only [if_neg handled]
    exact recorded

/-- **Sessions of the filter** that see the same, at other times. -/
theorem answers_untimed [Scalar.HoldsRates α] (noise : Noise α)
    {first second : Session α (Tracker α)}
    (both : first.Corresponds (kalman noise) anyTime (Tracker.Corresponds anyTime Eq) second)
    (given : first.setup.rate?.isSome = true) (sound : first.setup.RateIsGiven)
    {events others : List (MotionEvent α)}
    (alike : List.Forall₂ (MotionEvent.Corresponds anyTime.seen) events others)
    (moving : first.NeverRests (kalman noise) events)
    (going : second.NeverRests (kalman noise) others) :
    (second.frames (kalman noise) others).map Frame.answer =
      (first.frames (kalman noise) events).map Frame.answer := by
  have carries := anyTime_inPlace.kalman_carries noise
  induction alike generalizing first second with
  | nil => rfl
  | @cons event other _ _ pair _ ih =>
    have accepts : List.Forall₂ anyTime.seen
        ((first.opened (kalman noise) event).acceptedFrom (kalman noise) event)
        ((second.opened (kalman noise) other).acceptedFrom (kalman noise) other) := by
      rw [moving.record.1, going.record.1, pair.isCancel,
        (both.opened carries pair).pointer]
      split
      · exact .nil
      · exact pair.track _
    have recorded := both.record carries (.inl given) pair accepts
    obtain ⟨next, same⟩ := Corresponds.step carries (fun _ => rfl) sound recorded
    rw [← rate?_step (kalman noise) first event] at given
    exact congrArg₂ (· :: ·) same (ih next given (rateIsGiven_step sound event)
      moving.step going.step)

end Session

/-! ### Replays -/

namespace Predictor

/-- **With an explicit rate the filter keeps no clock.** Two traces that differ in their times alone,
and show no tracked pointer twice in a row at one place within a stroke, have the same frames but for
the times, and the same counts. The times need not be in order. -/
theorem clock_isIgnored {settings : PredictorSettings Float} {start : Predictor Float}
    (built : ofSettings settings = .ok start) (filtering : settings.strategy = .kalman)
    (given : settings.rate?.isSome = true) {events others : List (MotionEvent Float)}
    (same : events.map MotionEvent.untimed = others.map MotionEvent.untimed)
    (moving : ∀ stroke ∈ strokes events, stroke.IsChain (·.differs ·)) :
    (start.replay others).frames.map Frame.answer = (start.replay events).frames.map Frame.answer ∧
      (start.replay others).summary = (start.replay events).summary := by
  have alike : List.Forall₂ (MotionEvent.Corresponds anyTime.seen) events others := by
    have pairs := List.forall₂_eq_eq_eq ▸ same
    exact (List.forall₂_map_left_iff.mp (List.forall₂_map_right_iff.mp pairs)).imp
      fun _ _ => MotionEvent.corresponds_of_untimed
  have answers : (start.replay others).frames.map Frame.answer =
      (start.replay events).frames.map Frame.answer := by
    rw [frames_replay, frames_replay]
    rcases ofSettings_eq_ok built with ⟨_, session, configured, rfl⟩ | ⟨extrapolating, _⟩
    · obtain ⟨setup, _⟩ := setup_configure configured
      have new : session.last (PointerForecast.kalman settings.noise) = none ∧
          session.pointer = 0 := by
        rcases configure_eq_ok configured with ⟨_, rfl⟩ | ⟨_, _, _, rfl⟩ <;> exact ⟨rfl, rfl⟩
      have never {events : List (MotionEvent Float)}
          (moving : ∀ stroke ∈ strokes events, stroke.IsChain (·.differs ·)) :
          session.NeverRests (PointerForecast.kalman settings.noise) events :=
        ⟨[], by rw [new.1]; rfl, by rw [new.2]; exact moving⟩
      rw [(wraps_kalman _).run, (wraps_kalman _).run]
      refine Session.answers_untimed _ (.configured (anyTime_inPlace.kalman_carries _) configured) ?_
        (Session.rateIsGiven_configure configured) alike (never moving) (never ?_)
      · rw [setup, Option.isSome_map]
        exact given
      · rwa [strokes, strokesFrom_congr alike]
    · rw [filtering] at extrapolating
      cases extrapolating
  exact ⟨answers, summary_congr answers⟩

/-- Two strokes at times that go back and stand still, and the same ones at the end of the range: at an
explicit rate of 4 ms the filter says the same of both. -/
theorem clock_isIgnored_backwards :
    let settings : PredictorSettings Float := { PredictorSettings.usual with rate? := some 4 }
    let trace (first second third : Timestamp) : List (MotionEvent Float) :=
      [⟨.down, [7], [⟨first, [⟨1, 2, 0.5⟩]⟩, ⟨second, [⟨3, 2, 0.5⟩]⟩]⟩,
        ⟨.move, [7], [⟨third, [⟨5, 4, 1⟩]⟩]⟩, ⟨.down, [8, 7], [⟨first, [⟨5, 4, 1⟩, ⟨0, 0, 1⟩]⟩]⟩,
        ⟨.up, [8], [⟨third, [⟨6, 4, 1⟩]⟩]⟩]
    ∃ start, ofSettings settings = .ok start ∧ settings.strategy = .kalman ∧
      settings.rate?.isSome = true ∧
      (trace 9 3 3).map MotionEvent.untimed =
        (trace Int64.minValue 0 Int64.maxValue).map MotionEvent.untimed ∧
      (∀ stroke ∈ strokes (trace 9 3 3), stroke.IsChain (·.differs ·)) ∧
      (start.replay (trace Int64.minValue 0 Int64.maxValue)).frames.map Frame.answer =
        (start.replay (trace 9 3 3)).frames.map Frame.answer ∧
      (start.replay (trace Int64.minValue 0 Int64.maxValue)).summary =
        (start.replay (trace 9 3 3)).summary := by
  intro settings trace
  obtain ⟨start, built⟩ : ∃ start, ofSettings settings = .ok start := ⟨_, rfl⟩
  have moving : ∀ stroke ∈ strokes (trace 9 3 3), stroke.IsChain (·.differs ·) := by
    decide +kernel
  exact ⟨start, built, rfl, rfl, rfl, moving, clock_isIgnored built rfl rfl rfl moving⟩

end Predictor

end PointerForecast
