/-
**Two sessions that see corresponding observations.**

Two runs are told apart by what is observed: by when, or by where. A `Correspondence` says which
observation of the second run stands for one of the first, and which predicted sample then stands for
which. A strategy that carries the correspondence over, from what it absorbs to where it walks, makes
the two sessions predict correspondingly, in any run:

* `MotionEvent.Corresponds`: events that carry corresponding observations, of the same pointers.
* `Strategy.Carries`: **what makes a strategy carry a correspondence over.**
* `Session.Corresponds`: the relation of two sessions; `Corresponds.accept` is **one sample**,
  `Corresponds.record` **one event**, and `Corresponds.predictPadded` **one prediction**.
* `Correspondence.Steady`: the second run measures the same times and drops the same repetitions, so
  sessions correspond after any commands (`Corresponds.stateAfter`), and give corresponding answers
  (`Corresponds.answersTo`) and frames (`Corresponds.frames`).

The points that the two sessions store are not compared: a walk renews them before padding reads
them.
-/

import Mathlib.Data.List.Forall2
import PointerForecast.Proofs.FixedLength
import PointerForecast.Proofs.Repetition
import PointerForecast.Proofs.Transparency

namespace PointerForecast

variable {α M : Type}

/-! ### Lists and options in relation -/

section Relations

variable {β γ : Type} {related : β → γ → Prop}

theorem rel_getElem? {first : List β} {second : List γ} (pairs : List.Forall₂ related first second)
    (index : Nat) : Option.Rel related first[index]? second[index]? := by
  induction pairs generalizing index with
  | nil => exact .none
  | cons pair _ ih =>
    cases index with
    | zero => exact .some pair
    | succ index => exact ih index

theorem isEmpty_of_forall₂ {first : List β} {second : List γ}
    (pairs : List.Forall₂ related first second) : second.isEmpty = first.isEmpty := by
  cases pairs <;> rfl

theorem rel_cases {first : Option β} {second : Option γ} (pair : Option.Rel related first second) :
    (first = none ∧ second = none) ∨
      ∃ one two, first = some one ∧ second = some two ∧ related one two := by
  cases pair with
  | none => exact .inl ⟨rfl, rfl⟩
  | some pair => exact .inr ⟨_, _, rfl, rfl, pair⟩

theorem isSome_of_rel {first : Option β} {second : Option γ}
    (pair : Option.Rel related first second) : second.isSome = first.isSome := by
  cases pair <;> rfl

end Relations

/-! ### Events -/

/-- Events with the same action and the same pointers, and corresponding observations. -/
structure MotionEvent.Corresponds (seen : Moment α → Moment α → Prop)
    (event other : MotionEvent α) : Prop where
  action : other.action = event.action
  pointers : other.pointers = event.pointers
  batches : List.Forall₂ (fun batch later : Batch α =>
    List.Forall₂ (fun coords moved => seen ⟨batch.time, coords⟩ ⟨later.time, moved⟩)
      batch.coords later.coords) event.batches other.batches

/-- The event with its times and its coordinates changed. -/
def MotionEvent.moved (clock : Timestamp → Timestamp) (place : Coords α → Coords α)
    (event : MotionEvent α) : MotionEvent α :=
  { event with
    batches := event.batches.map fun batch => ⟨clock batch.time, batch.coords.map place⟩ }

namespace MotionEvent

variable {seen : Moment α → Moment α → Prop} {event other : MotionEvent α}

theorem corresponds_moved {clock : Timestamp → Timestamp} {place : Coords α → Coords α}
    {event : MotionEvent α}
    (each : ∀ batch ∈ event.batches, ∀ coords ∈ batch.coords,
      seen ⟨batch.time, coords⟩ ⟨clock batch.time, place coords⟩) :
    event.Corresponds seen (event.moved clock place) where
  action := rfl
  pointers := rfl
  batches := by
    refine List.forall₂_map_right_iff.mpr (List.forall₂_same.mpr fun batch inside => ?_)
    exact List.forall₂_map_right_iff.mpr (List.forall₂_same.mpr (each batch inside))

namespace Corresponds

theorem isCancel (alike : event.Corresponds seen other) : other.isCancel = event.isCancel := by
  unfold MotionEvent.isCancel
  rw [alike.action]

theorem pointer? (alike : event.Corresponds seen other) :
    Command.pointer? (.observe other) = Command.pointer? (.observe event) := by
  simp only [Command.pointer?, alike.action, alike.pointers]

theorem history (alike : event.Corresponds seen other) (index : Nat) :
    List.Forall₂ seen (event.history index) (other.history index) := by
  obtain ⟨-, -, pairs⟩ := alike
  unfold MotionEvent.history
  generalize event.batches = batches, other.batches = others at pairs
  -- A batch without an entry for the pointer corresponds to one without, and both are skipped.
  induction pairs with
  | nil => exact .nil
  | cons pair _ ih =>
    rw [List.filterMap_cons, List.filterMap_cons]
    rcases rel_cases (rel_getElem? pair index) with ⟨one, two⟩ | ⟨_, _, one, two, observed⟩
    · rw [one, two, Option.map_none, Option.map_none]
      exact ih
    · rw [one, two, Option.map_some, Option.map_some]
      exact .cons observed ih

theorem trackOf (alike : event.Corresponds seen other) (pointer : PointerId) :
    Option.Rel (List.Forall₂ seen) (event.trackOf pointer) (other.trackOf pointer) := by
  unfold MotionEvent.trackOf MotionEvent.indexOf?
  rw [alike.pointers]
  cases event.pointers.findIdx? (· == pointer) with
  | none => exact .none
  | some index => exact .some (alike.history index)

theorem track (alike : event.Corresponds seen other) (pointer : PointerId) :
    List.Forall₂ seen ((event.trackOf pointer).getD []) ((other.trackOf pointer).getD []) := by
  rcases rel_cases (alike.trackOf pointer) with ⟨one, two⟩ | ⟨_, _, one, two, moments⟩
  · rw [one, two]
    exact .nil
  · rw [one, two]
    exact moments

end Corresponds

end MotionEvent

/-! ### Commands and frames -/

/-- The command with its event changed. -/
def Command.onEvent (change : MotionEvent α → MotionEvent α) : Command α → Command α
  | .observe event => .observe (change event)
  | command => command

/-- Holds of a command to fill up a given prediction. -/
def Command.isPad : Command α → Bool
  | .pad _ => true
  | _ => false

/-- What a frame says apart from the time. -/
def Frame.answer (frame : Frame α) : Bool × Option (Prediction α) :=
  (frame.handled, frame.prediction)

theorem Summary.count_congr {frame other : Frame α} (same : frame.answer = other.answer)
    (summary : Summary) : summary.count frame = summary.count other := by
  obtain ⟨handled, prediction⟩ := Prod.mk.inj same
  simp only [count, note, handled, prediction]

theorem Summary.foldl_count_congr {frames others : List (Frame α)}
    (same : frames.map Frame.answer = others.map Frame.answer) (summary : Summary) :
    frames.foldl count summary = others.foldl count summary := by
  induction frames generalizing others summary with
  | nil =>
    rw [List.map_eq_nil_iff.mp same.symm]
  | cons frame rest ih =>
    obtain ⟨other, later, rfl, one, more⟩ := List.map_eq_cons_iff.mp same.symm
    rw [List.foldl_cons, List.foldl_cons, count_congr one.symm, ih more.symm]

/-- The counts of a replay depend on the answers of its frames. -/
theorem Predictor.summary_congr [Scalar α] {first second : Predictor α}
    {events others : List (MotionEvent α)}
    (same : (first.replay events).frames.map Frame.answer =
      (second.replay others).frames.map Frame.answer) :
    (first.replay events).summary = (second.replay others).summary := by
  unfold replay at same ⊢
  rw [engine.summary_replay, engine.summary_replay, Summary.foldl_count_congr same]

/-! ### Correspondences -/

/-- The prediction with other samples. -/
def Prediction.map (place : Coords α → Coords α) (prediction : Prediction α) : Prediction α :=
  { prediction with samples := prediction.samples.map place }

/-- The forecast with other samples. -/
def Forecast.map (place : Coords α → Coords α) (forecast : Forecast α) : Forecast α :=
  ⟨forecast.samples.map place, forecast.furthest.map place⟩

/-- The answer with other predicted samples. -/
def Outcome.map (place : Coords α → Coords α) : Outcome α → Outcome α
  | .prediction answered => .prediction (answered.map (.map place))
  | outcome => outcome

theorem Prediction.map_id (prediction : Prediction α) : prediction.map id = prediction := by
  simp [map]

/-- How the observations of a run stand for those of another one, and the predicted samples with
them. Where a sample is predicted may depend on whether one was accepted before. -/
structure Correspondence (α : Type) where
  /-- Holds of an observation and the one that stands for it. -/
  seen : Moment α → Moment α → Prop
  /-- What stands for a predicted sample; a position is known, or it is not. -/
  placed : Bool → Coords α → Coords α

variable [Scalar α]

/-- The second run measures the same times, and sees the pointer rest when the first one does. -/
structure Correspondence.Steady (along : Correspondence α) : Prop where
  gap {previous earlier next later : Moment α} (last : along.seen previous earlier)
    (now : along.seen next later) :
    later.time.toInt - earlier.time.toInt = next.time.toInt - previous.time.toInt
  rests {previous earlier next later : Moment α} (last : along.seen previous earlier)
    (now : along.seen next later) :
    (later.coords.x == earlier.coords.x && later.coords.y == earlier.coords.y) =
      (next.coords.x == previous.coords.x && next.coords.y == previous.coords.y)

namespace Correspondence.Steady

variable {along : Correspondence α} {previous earlier next later : Moment α}

/-- A difference that leaves the range of times, and is cut off there, depends on the unbounded one
alone. -/
theorem elapsed (steady : along.Steady) (last : along.seen previous earlier)
    (now : along.seen next later) :
    Timestamp.elapsed later.time earlier.time = Timestamp.elapsed next.time previous.time := by
  unfold Timestamp.elapsed
  rw [steady.gap last now]

/-- So does one that wraps around. -/
theorem since (steady : along.Steady) (last : along.seen previous earlier)
    (now : along.seen next later) : later.since earlier = next.since previous := by
  unfold Moment.since
  rw [Int64.toInt_sub, Int64.toInt_sub, steady.gap last now]

/-- The end of the range of times decides no repetition. -/
theorem isRepeatedBy (steady : along.Steady) (last : along.seen previous earlier)
    (now : along.seen next later) : earlier.isRepeatedBy later = previous.isRepeatedBy next := by
  have window : later.time.toInt ≤ earlier.time.toInt + 20 ↔
      next.time.toInt ≤ previous.time.toInt + 20 := by
    have gap := steady.gap last now
    omega
  rw [Moment.isRepeatedBy_eq_repeats, Moment.isRepeatedBy_eq_repeats, Moment.repeats,
    Moment.repeats, steady.rests last now, decide_eq_decide.mpr window]

theorem forall₂_accepted (steady : along.Steady)
    {last other : Option (Moment α)} (known : Option.Rel along.seen last other)
    {moments others : List (Moment α)} (seen : List.Forall₂ along.seen moments others) :
    List.Forall₂ along.seen (accepted last moments) (accepted other others) := by
  induction seen generalizing last other with
  | nil => exact .nil
  | @cons moment later _ _ now _ ih =>
    have same : other.any (·.isRepeatedBy later) = last.any (·.isRepeatedBy moment) := by
      rcases rel_cases known with ⟨rfl, rfl⟩ | ⟨previous, earlier, rfl, rfl, before⟩
      · rw [Option.any_none, Option.any_none]
      · rw [Option.any_some, Option.any_some, steady.isRepeatedBy before now]
    rw [accepted, accepted, same]
    by_cases repetition : last.any (·.isRepeatedBy moment) = true
    · rw [if_pos repetition, if_pos repetition]
      exact ih known
    · rw [if_neg repetition, if_neg repetition]
      exact .cons now (ih (.some now))

end Correspondence.Steady

/-- Holds of a strategy that carries a correspondence over, from what it absorbs to where it walks;
memories of the two runs are in the relation. -/
structure Strategy.Carries (strategy : Strategy α M) (along : Correspondence α)
    (memory : M → M → Prop) : Prop where
  stores : strategy.StoresInStroke
  blank : memory strategy.blank strategy.blank
  absorb {first second : M} (same : memory first second) {moment other : Moment α}
    (seen : along.seen moment other) :
    memory (strategy.absorb first moment) (strategy.absorb second other)
  last {first second : M} (same : memory first second) :
    Option.Rel along.seen (strategy.last first) (strategy.last second)
  isReady {first second : M} (same : memory first second) :
    strategy.isReady second = strategy.isReady first
  horizon {first second : M} (same : memory first second) (target rate : α) :
    strategy.horizon second target rate = strategy.horizon first target rate
  walk {first second : M} (same : memory first second) (rate : α) (steps : Nat) :
    strategy.walk second none rate steps =
      (strategy.walk first none rate steps).map (along.placed (strategy.last first).isSome)
  rest {first second : M} (same : memory first second) :
    boundedSample (lastPosition (strategy.last second)) (strategy.restPressure second) =
      along.placed (strategy.last first).isSome
        (boundedSample (lastPosition (strategy.last first)) (strategy.restPressure first))

/-! ### Sessions -/

namespace Session

variable (strategy : Strategy α M)

/-- The session in which an event is observed: that of a new stroke, if the event begins one. -/
def opened (session : Session α M) (event : MotionEvent α) : Session α M :=
  (Command.pointer? (.observe event)).elim session (session.beginStroke strategy)

omit [Scalar α] in
theorem setup_opened (session : Session α M) (event : MotionEvent α) :
    (session.opened strategy event).setup.rate? = session.setup.rate? := by
  unfold opened
  cases Command.pointer? (.observe event) <;> rfl

/-- Two sessions whose observations correspond. -/
structure Corresponds (strategy : Strategy α M) (along : Correspondence α) (memory : M → M → Prop)
    (first second : Session α M) : Prop where
  pointer : second.pointer = first.pointer
  target : second.target = first.target
  rate : second.rate = first.rate
  memory : memory first.memory second.memory
  renewed : first.IsRenewed strategy
  alsoRenewed : second.IsRenewed strategy

namespace Corresponds

variable {strategy : Strategy α M} {along : Correspondence α} {memory : M → M → Prop}
  {first second : Session α M}

omit [Scalar α] in
theorem setup (both : first.Corresponds strategy along memory second) : second.setup = first.setup := by
  unfold Session.setup
  rw [both.pointer, both.target, both.rate]

theorem expected? (both : first.Corresponds strategy along memory second) :
    second.expected? = first.expected? := by
  unfold Session.expected? Session.targetTime
  rw [both.rate, both.target]

theorem last (carries : strategy.Carries along memory)
    (both : first.Corresponds strategy along memory second) :
    Option.Rel along.seen (first.last strategy) (second.last strategy) := carries.last both.memory

/-! ### Samples and events -/

/-- **One sample.** What is measured of time must be the same, unless a rate was given. -/
theorem accept (carries : strategy.Carries along memory)
    (both : first.Corresponds strategy along memory second)
    (clock : first.setup.rate?.isSome = true ∨ along.Steady) {moment other : Moment α}
    (seen : along.seen moment other) :
    (first.accept strategy moment).Corresponds strategy along memory (second.accept strategy other) where
  pointer := both.pointer
  target := both.target
  rate := by
    unfold Session.accept
    rcases rel_cases (both.last carries) with ⟨one, two⟩ | ⟨previous, earlier, one, two, before⟩
    · rw [one, two]
      exact both.rate
    · rw [one, two]
      dsimp only
      rw [both.rate]
      -- A rate that was given does not take the difference into account, whatever it is.
      rcases clock with given | steady
      · obtain ⟨rate, chosen⟩ := Option.isSome_iff_exists.mp given
        rw [ReportRate.given?_eq_some.mp chosen, ReportRate.record_overridden,
          ReportRate.record_overridden]
      · rw [steady.elapsed before seen]
  memory := carries.absorb both.memory seen
  renewed := .accept carries.stores first moment
  alsoRenewed := .accept carries.stores second other

theorem foldl_accept (carries : strategy.Carries along memory)
    (both : first.Corresponds strategy along memory second)
    (clock : first.setup.rate?.isSome = true ∨ along.Steady) {moments others : List (Moment α)}
    (seen : List.Forall₂ along.seen moments others) :
    (moments.foldl (Session.accept strategy) first).Corresponds strategy along memory
      (others.foldl (Session.accept strategy) second) := by
  induction seen generalizing first second with
  | nil => exact both
  | cons now _ ih =>
    refine ih (both.accept carries clock now) ?_
    rwa [setup_accept]

theorem clear (carries : strategy.Carries along memory)
    (both : first.Corresponds strategy along memory second) :
    (first.clear strategy).Corresponds strategy along memory (second.clear strategy) :=
  ⟨both.pointer, both.target, both.rate, carries.blank, .inl rfl, .inl rfl⟩

theorem opened (carries : strategy.Carries along memory)
    (both : first.Corresponds strategy along memory second) {event other : MotionEvent α}
    (alike : event.Corresponds along.seen other) :
    (first.opened strategy event).Corresponds strategy along memory (second.opened strategy other) := by
  unfold Session.opened
  rw [alike.pointer?]
  cases Command.pointer? (.observe event) with
  | none => exact both
  | some pointer => exact { both.clear carries with pointer := rfl }

theorem observe (carries : strategy.Carries along memory)
    (both : first.Corresponds strategy along memory second)
    (clock : first.setup.rate?.isSome = true ∨ along.Steady) {event other : MotionEvent α}
    (alike : event.Corresponds along.seen other)
    (accepts : List.Forall₂ along.seen (first.acceptedFrom strategy event)
      (second.acceptedFrom strategy other)) :
    (first.observe strategy event).1.Corresponds strategy along memory (second.observe strategy other).1 ∧
      (second.observe strategy other).2 = (first.observe strategy event).2 := by
  refine ⟨?_, ?_⟩
  · have one := observe_accepts strategy first event
    have two := observe_accepts strategy second other
    unfold Accepts at one two
    rw [alike.isCancel] at two
    by_cases cancelled : event.isCancel = true
    · rw [if_pos cancelled] at one two
      rw [one.2, two.2]
      exact both.clear carries
    · rw [if_neg cancelled] at one two
      rw [one, two]
      exact both.foldl_accept carries clock accepts
  · rw [observe_snd, observe_snd, alike.isCancel, both.pointer,
      isSome_of_rel (alike.trackOf first.pointer)]

/-- **One event**, if both sessions accept corresponding observations out of it. -/
theorem record (carries : strategy.Carries along memory)
    (both : first.Corresponds strategy along memory second)
    (clock : first.setup.rate?.isSome = true ∨ along.Steady) {event other : MotionEvent α}
    (alike : event.Corresponds along.seen other)
    (accepts : List.Forall₂ along.seen ((first.opened strategy event).acceptedFrom strategy event)
      ((second.opened strategy other).acceptedFrom strategy other)) :
    (first.record strategy event).1.Corresponds strategy along memory (second.record strategy other).1 ∧
      (second.record strategy other).2 = (first.record strategy event).2 := by
  rw [record_eq_observe, record_eq_observe]
  refine (both.opened carries alike).observe carries ?_ alike accepts
  rwa [setup_opened]

theorem acceptedFrom (carries : strategy.Carries along memory) (steady : along.Steady)
    (both : first.Corresponds strategy along memory second)
    {event other : MotionEvent α} (alike : event.Corresponds along.seen other) :
    List.Forall₂ along.seen (first.acceptedFrom strategy event) (second.acceptedFrom strategy other) := by
  unfold Session.acceptedFrom
  rw [alike.isCancel, both.pointer]
  split
  · exact .nil
  · exact steady.forall₂_accepted (both.last carries) (alike.track first.pointer)

theorem record_steady (carries : strategy.Carries along memory) (steady : along.Steady)
    (both : first.Corresponds strategy along memory second) {event other : MotionEvent α}
    (alike : event.Corresponds along.seen other) :
    (first.record strategy event).1.Corresponds strategy along memory (second.record strategy other).1 ∧
      (second.record strategy other).2 = (first.record strategy event).2 :=
  both.record carries (.inr steady) alike ((both.opened carries alike).acceptedFrom carries steady alike)

/-! ### Predictions -/

theorem canPredict (carries : strategy.Carries along memory)
    (both : first.Corresponds strategy along memory second) :
    second.canPredict strategy = first.canPredict strategy := by
  unfold Session.canPredict
  rw [both.expected?, both.rate, carries.isReady both.memory]

theorem forecast (carries : strategy.Carries along memory)
    (both : first.Corresponds strategy along memory second) :
    second.forecast strategy =
      (first.forecast strategy).map (along.placed (first.last strategy).isSome) := by
  have far : second.steps strategy = first.steps strategy := by
    unfold Session.steps Session.targetTime
    rw [both.expected?, both.rate, both.target, carries.horizon both.memory]
  rw [both.renewed.forecast, both.alsoRenewed.forecast, far, both.rate]
  exact carries.walk both.memory _ _

theorem rest (carries : strategy.Carries along memory)
    (both : first.Corresponds strategy along memory second) :
    boundedSample (lastPosition (second.last strategy)) (strategy.restPressure second.memory) =
      along.placed (first.last strategy).isSome
        (boundedSample (lastPosition (first.last strategy)) (strategy.restPressure first.memory)) :=
  carries.rest both.memory

/-- **One prediction**, filled up as expected. -/
theorem predictPadded [Scalar.HoldsRates α] (carries : strategy.Carries along memory)
    (both : first.Corresponds strategy along memory second) (sound : first.setup.RateIsGiven) :
    (first.predictPadded strategy).1.Corresponds strategy along memory (second.predictPadded strategy).1 ∧
      (second.predictPadded strategy).2 =
        (first.predictPadded strategy).2.map (.map (along.placed (first.last strategy).isSome)) := by
  refine ⟨?_, ?_⟩
  · obtain ⟨_, one⟩ := predictPadded_fst strategy first
    obtain ⟨_, two⟩ := predictPadded_fst strategy second
    have renewed := both.renewed.predictPadded carries.stores
    have alsoRenewed := both.alsoRenewed.predictPadded carries.stores
    rw [one] at renewed ⊢
    rw [two] at alsoRenewed ⊢
    exact { both with renewed, alsoRenewed }
  · by_cases ready : first.canPredict strategy = true
    · rw [predictPadded_of_ready strategy ready,
        predictPadded_of_ready strategy ((both.canPredict carries).trans ready), both.pointer,
        both.expected?, both.forecast carries, both.rest carries]
      simp [Prediction.map, Forecast.map, Option.getD_map]
    · have waiting : second.canPredict strategy ≠ true := by rwa [both.canPredict carries]
      have also : second.setup.RateIsGiven := both.setup ▸ sound
      rw [predictPadded_of_waiting strategy sound ready,
        predictPadded_of_waiting strategy also waiting]
      rfl

/-! ### Commands -/

/-- **One command** and its answer. -/
theorem serve [Scalar.HoldsRates α] (carries : strategy.Carries along memory)
    (steady : along.Steady) (both : first.Corresponds strategy along memory second)
    (sound : first.setup.RateIsGiven) {change : MotionEvent α → MotionEvent α}
    (changes : ∀ event, MotionEvent.Corresponds along.seen event (change event))
    {command : Command α} (answered : command.isPad = false) :
    (first.serve strategy command).1.Corresponds strategy along memory
        (second.serve strategy (command.onEvent change)).1 ∧
      (second.serve strategy (command.onEvent change)).2 =
        (first.serve strategy command).2.map (along.placed (first.last strategy).isSome) := by
  cases command with
  | setTarget milliseconds => exact ⟨{ both with target := rfl }, rfl⟩
  | setRate milliseconds =>
    unfold Session.serve answer Command.onEvent setRate
    by_cases refused : milliseconds ≤ 0
    · simp only [if_pos refused]
      exact ⟨both, rfl⟩
    · simp only [if_neg refused]
      exact ⟨{ both with rate := rfl }, rfl⟩
  | beginStroke pointer => exact ⟨{ both.clear carries with pointer := rfl }, rfl⟩
  | observe event =>
    obtain ⟨next, handled⟩ := both.record_steady carries steady (changes event)
    exact ⟨next, congrArg Outcome.handled handled⟩
  | predict =>
    obtain ⟨next, predicted⟩ := both.predictPadded carries sound
    exact ⟨next, congrArg Outcome.prediction predicted⟩
  | pad prediction => cases answered

/-- **Any commands.** -/
theorem stateAfter [Scalar.HoldsRates α] (carries : strategy.Carries along memory)
    (steady : along.Steady) (both : first.Corresponds strategy along memory second)
    (sound : first.setup.RateIsGiven) {change : MotionEvent α → MotionEvent α}
    (changes : ∀ event, MotionEvent.Corresponds along.seen event (change event))
    {commands : List (Command α)} (answered : ∀ command ∈ commands, command.isPad = false) :
    (stateAfter (Session.serve strategy) first commands).Corresponds strategy along memory
      (PointerForecast.stateAfter (Session.serve strategy) second
        (commands.map (.onEvent change))) := by
  induction commands generalizing first second with
  | nil => exact both
  | cons command rest ih =>
    have next := (both.serve carries steady sound changes (answered _ List.mem_cons_self)).1
    exact ih next (rateIsGiven_serve sound command)
      fun later member => answered later (List.mem_cons_of_mem _ member)

/-- **The answers to any commands**, if a predicted sample is placed alike at any time. -/
theorem answersTo [Scalar.HoldsRates α] (carries : strategy.Carries along memory)
    (steady : along.Steady) {place : Coords α → Coords α}
    (places : ∀ known, along.placed known = place)
    (both : first.Corresponds strategy along memory second) (sound : first.setup.RateIsGiven)
    {change : MotionEvent α → MotionEvent α}
    (changes : ∀ event, MotionEvent.Corresponds along.seen event (change event))
    {commands : List (Command α)} (answered : ∀ command ∈ commands, command.isPad = false) :
    PointerForecast.answersTo (Session.serve strategy) second (commands.map (.onEvent change)) =
      (PointerForecast.answersTo (Session.serve strategy) first commands).map (.map place) := by
  induction commands generalizing first second with
  | nil => rfl
  | cons command rest ih =>
    obtain ⟨next, same⟩ :=
      both.serve carries steady sound changes (answered _ List.mem_cons_self)
    rw [places] at same
    exact congrArg₂ (· :: ·) same (ih next (rateIsGiven_serve sound command)
      fun later member => answered later (List.mem_cons_of_mem _ member))

/-! ### Replays -/

theorem step [Scalar.HoldsRates α] (carries : strategy.Carries along memory)
    (still : ∀ known, along.placed known = id) (sound : first.setup.RateIsGiven)
    {event other : MotionEvent α}
    (recorded : (first.record strategy event).1.Corresponds strategy along memory
        (second.record strategy other).1 ∧
      (second.record strategy other).2 = (first.record strategy event).2) :
    (first.step strategy event).1.Corresponds strategy along memory (second.step strategy other).1 ∧
      (second.step strategy other).2.answer = (first.step strategy event).2.answer := by
  obtain ⟨next, same⟩ := recorded
  obtain ⟨later, predicted⟩ := next.predictPadded carries (rateIsGiven_serve sound (.observe event))
  rw [step_eq, step_eq, same]
  by_cases handled : (first.record strategy event).2 = true
  · simp only [if_pos handled]
    refine ⟨later, ?_⟩
    rw [still, show Prediction.map id = id from funext Prediction.map_id, Option.map_id] at predicted
    exact congrArg (true, ·) predicted
  · simp only [if_neg handled]
    exact ⟨next, rfl⟩

/-- **Any events.** -/
theorem frames [Scalar.HoldsRates α] (carries : strategy.Carries along memory)
    (steady : along.Steady) (still : ∀ known, along.placed known = id)
    (both : first.Corresponds strategy along memory second) (sound : first.setup.RateIsGiven)
    {events others : List (MotionEvent α)}
    (alike : List.Forall₂ (MotionEvent.Corresponds along.seen) events others) :
    (second.frames strategy others).map Frame.answer =
      (first.frames strategy events).map Frame.answer := by
  induction alike generalizing first second with
  | nil => rfl
  | cons pair _ ih =>
    obtain ⟨next, same⟩ := step carries still sound (both.record_steady carries steady pair)
    exact congrArg₂ (· :: ·) same (ih next (rateIsGiven_step sound _))

theorem configured {settings : PredictorSettings α} {session : Session α M}
    (carries : strategy.Carries along memory)
    (built : Predictor.configure settings strategy = .ok session) :
    session.Corresponds strategy along memory session := by
  rcases Predictor.configure_eq_ok built with ⟨_, rfl⟩ | ⟨_, _, _, rfl⟩
  · exact ⟨rfl, rfl, rfl, carries.blank, .inl rfl, .inl rfl⟩
  · exact ⟨rfl, rfl, rfl, carries.blank, .inl rfl, .inl rfl⟩

end Corresponds

end Session

end PointerForecast
