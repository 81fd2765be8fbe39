/-
**The bounded history loses nothing.**

An extrapolation remembers the latest samples of a stroke, at least three of them. However many it
remembers, it reads the latest three only: the smoothed derivatives take two and three, whether it is
ready depends on the third, and the latest one is the one accepted last. So a session that
remembers more is told apart from one that remembers the least by nothing but its history, after any
commands, and it gives the same answers. The history itself is the end of the current stroke, as much
of it as is remembered.

* `Strategy.Forgets`: how one strategy works on what another remembers; `linear_forgets`: **an
  extrapolation that remembers the least works on the latest three samples of another.**
* `Session.forget`: a session with less remembered; `Session.forget_apply` is **one command**, and
  `Session.stateAfter_forget`, `Session.answersTo_forget` are **any run.**
* `Motion.history_foldl_absorb`: **the history is the end of the stroke.**
* `history_isSufficient`: **two sizes of the history, and what each remembers.**
-/

import Mathlib.Data.List.DropRight
import PointerForecast.Proofs.Chronicle
import PointerForecast.Proofs.Lockstep

namespace PointerForecast

variable {α M N : Type} [Scalar α]

/-! ### Strategies that remember less -/

/-- Holds of a strategy that works on what is left of the memory of another one, once it has
forgotten some of it, as the other one works on the whole. -/
structure Strategy.Forgets (whole : Strategy α M) (part : Strategy α N) (forget : M → N) :
    Prop where
  blank : forget whole.blank = part.blank
  absorb (memory : M) (moment : Moment α) :
    forget (whole.absorb memory moment) = part.absorb (forget memory) moment
  last (memory : M) : part.last (forget memory) = whole.last memory
  isReady (memory : M) : part.isReady (forget memory) = whole.isReady memory
  horizon (memory : M) (target rate : α) :
    part.horizon (forget memory) target rate = whole.horizon memory target rate
  walk (memory : M) (stored : Option (Coords α)) (rate : α) (steps : Nat) :
    part.walk (forget memory) stored rate steps = whole.walk memory stored rate steps
  restPressure (memory : M) : part.restPressure (forget memory) = whole.restPressure memory

/-- The tuning that remembers the least. -/
def LinearTuning.least (tuning : LinearTuning α) : LinearTuning α := { tuning with historySize := 0 }

/-- What a bounded list leaves out is left out after one more entry too. -/
theorem take_cons_take {β : Type} (entry : β) (list : List β) (bound : Nat) :
    (entry :: list.take bound).take bound = (entry :: list).take bound := by
  cases bound with
  | zero => rfl
  | succ bound =>
    rw [List.take_succ_cons, List.take_succ_cons, List.take_take, Nat.min_eq_left bound.le_succ]

namespace Motion

variable {bound : Nat}

/-- The memory with only the least history. -/
def recent (motion : Motion α) : Motion α :=
  { motion with history := motion.history.take leastHistory }

omit [Scalar α] in
theorem head?_recent (motion : Motion α) : motion.recent.history.head? = motion.history.head? := by
  unfold recent
  rw [List.head?_take, if_neg (by decide)]

omit [Scalar α] in
theorem isEmpty_recent (motion : Motion α) :
    motion.recent.history.isEmpty = motion.history.isEmpty := by
  unfold recent
  cases motion.history <;> rfl

theorem observedVelocity?_take (enough : leastHistory ≤ bound) (history : List (Moment α)) :
    observedVelocity? (history.take bound) = observedVelocity? history := by
  obtain ⟨more, rfl⟩ := Nat.exists_eq_add_of_le' enough
  match history with
  | [] => rfl
  | [_] => rfl
  | _ :: _ :: _ => rfl

theorem observedAcceleration?_take (enough : leastHistory ≤ bound) (history : List (Moment α)) :
    observedAcceleration? (history.take bound) = observedAcceleration? history := by
  obtain ⟨more, rfl⟩ := Nat.exists_eq_add_of_le' enough
  match history with
  | [] => rfl
  | [_] => rfl
  | [_, _] => rfl
  | _ :: _ :: _ :: _ => rfl

/-- The derivatives after one more sample, whatever the bound of the history. -/
theorem absorb_eq (tuning : LinearTuning α) (motion : Motion α) (moment : Moment α) :
    motion.absorb tuning moment =
      { history := (moment :: motion.history).take (depth tuning)
        velocity := ((observedVelocity? (moment :: motion.history)).map
          (smooth motion.velocity · tuning.velocitySmoothing)).getD motion.velocity
        acceleration := ((observedAcceleration? (moment :: motion.history)).map
          (smooth motion.acceleration · tuning.accelerationSmoothing)).getD motion.acceleration } := by
  unfold absorb
  dsimp only
  rw [observedVelocity?_take (leastHistory_le_depth tuning),
    observedAcceleration?_take (leastHistory_le_depth tuning)]
  cases observedVelocity? (moment :: motion.history) <;>
    cases observedAcceleration? (moment :: motion.history) <;> rfl

/-- **One more sample**: the latest three samples take it in as all that are remembered. -/
theorem recent_absorb (tuning : LinearTuning α) (motion : Motion α) (moment : Moment α) :
    (motion.absorb tuning moment).recent = motion.recent.absorb tuning.least moment := by
  have shortest : (moment :: motion.recent.history).take leastHistory =
      (moment :: motion.history).take leastHistory := take_cons_take moment motion.history leastHistory
  have velocity : observedVelocity? (moment :: motion.recent.history) =
      observedVelocity? (moment :: motion.history) := by
    rw [← observedVelocity?_take le_rfl, shortest, observedVelocity?_take le_rfl]
  have acceleration : observedAcceleration? (moment :: motion.recent.history) =
      observedAcceleration? (moment :: motion.history) := by
    rw [← observedAcceleration?_take le_rfl, shortest, observedAcceleration?_take le_rfl]
  rw [absorb_eq, absorb_eq, velocity, acceleration]
  refine Motion.ext ?_ rfl rfl
  show ((moment :: motion.history).take (depth tuning)).take leastHistory =
    (moment :: motion.recent.history).take leastHistory
  rw [shortest, List.take_take, Nat.min_eq_left (leastHistory_le_depth tuning)]

/-- **The history is the end of the stroke.** -/
theorem history_foldl_absorb (tuning : LinearTuning α) (moments : List (Moment α)) :
    (moments.foldl (absorb tuning) blank).history = moments.reverse.take (depth tuning) := by
  induction moments using List.reverseRecOn with
  | nil => exact List.take_nil.symm
  | append_singleton before moment ih =>
    rw [List.foldl_append, List.foldl_cons, List.foldl_nil, List.reverse_append,
      List.reverse_singleton, List.singleton_append, ← take_cons_take, ← ih]
    rfl

end Motion

/-- **An extrapolation that remembers the least works on the latest three samples of another.** -/
theorem linear_forgets (tuning : LinearTuning α) :
    (linear tuning).Forgets (linear tuning.least) Motion.recent where
  blank := rfl
  absorb := Motion.recent_absorb tuning
  isReady motion := by
    show decide (Motion.leastHistory ≤ (motion.history.take Motion.leastHistory).length) =
      decide (Motion.leastHistory ≤ motion.history.length)
    rw [List.length_take, decide_eq_decide, Nat.le_min, and_iff_right le_rfl]
  last := Motion.head?_recent
  horizon motion _ _ := by
    unfold linear
    dsimp only
    rw [Motion.isEmpty_recent]
    rfl
  walk motion _ _ _ := by
    unfold linear
    dsimp only
    rw [Motion.head?_recent]
    rfl
  restPressure motion := by
    unfold linear
    dsimp only
    rw [Motion.head?_recent]

/-! ### Sessions that remember less -/

namespace Session

/-- The session with some of its memory forgotten. -/
def forget (forget : M → N) (session : Session α M) : Session α N where
  pointer := session.pointer
  target := session.target
  rate := session.rate
  memory := forget session.memory
  furthest := session.furthest

variable {whole : Strategy α M} {part : Strategy α N} {forget : M → N}

omit [Scalar α] in
theorem last_forget (forgets : whole.Forgets part forget) (session : Session α M) :
    (session.forget forget).last part = session.last whole := forgets.last session.memory

/-- **One accepted sample.** -/
theorem forget_accept (forgets : whole.Forgets part forget) (session : Session α M)
    (moment : Moment α) :
    (session.accept whole moment).forget forget = (session.forget forget).accept part moment := by
  unfold accept
  rw [last_forget forgets]
  exact Session.ext rfl rfl rfl (forgets.absorb _ _) rfl

theorem forget_take (forgets : whole.Forgets part forget) (session : Session α M)
    (moment : Moment α) :
    (session.take whole moment).forget forget = (session.forget forget).take part moment := by
  have repeats : (session.forget forget).isRepetition part moment =
      session.isRepetition whole moment := by
    unfold isRepetition
    rw [last_forget forgets]
  unfold take
  rw [repeats, apply_ite (Session.forget forget), forget_accept forgets]

theorem forget_foldl_take (forgets : whole.Forgets part forget) (session : Session α M)
    (moments : List (Moment α)) :
    (moments.foldl (take whole) session).forget forget =
      moments.foldl (take part) (session.forget forget) := by
  induction moments generalizing session with
  | nil => rfl
  | cons moment rest ih => rw [List.foldl_cons, ih, forget_take forgets, List.foldl_cons]

omit [Scalar α] in
theorem forget_clear (forgets : whole.Forgets part forget) (session : Session α M) :
    (session.clear whole).forget forget = (session.forget forget).clear part :=
  Session.ext rfl rfl rfl forgets.blank rfl

omit [Scalar α] in
theorem forget_beginStroke (forgets : whole.Forgets part forget) (session : Session α M)
    (pointer : PointerId) :
    (session.beginStroke whole pointer).forget forget =
      (session.forget forget).beginStroke part pointer :=
  Session.ext rfl rfl rfl forgets.blank rfl

/-- **One event.** -/
theorem forget_observe (forgets : whole.Forgets part forget) (session : Session α M)
    (event : MotionEvent α) :
    (session.forget forget).observe part event =
      ((session.observe whole event).1.forget forget, (session.observe whole event).2) := by
  unfold observe
  by_cases cancelled : event.isCancel = true
  · rw [if_pos cancelled, if_pos cancelled, forget_clear forgets]
  · rw [if_neg cancelled, if_neg cancelled]
    have tracked : event.trackOf (session.forget forget).pointer = event.trackOf session.pointer := rfl
    rw [tracked]
    cases event.trackOf session.pointer with
    | none => rfl
    | some moments => exact congrArg (·, true) (forget_foldl_take forgets session moments).symm

theorem forecast_forget (forgets : whole.Forgets part forget) (session : Session α M) :
    (session.forget forget).forecast part = session.forecast whole := by
  have nominal := forgets.horizon session.memory session.targetTime session.rate.milliseconds
  have far : (session.forget forget).steps part = session.steps whole := by
    have expected : (session.forget forget).expected? = session.expected? := rfl
    unfold steps
    rw [expected]
    cases session.expected? with
    | none => exact nominal
    | some expected => exact congrArg (Nat.min · expected) nominal
  unfold forecast
  rw [far]
  exact forgets.walk _ _ _ _

/-- **One prediction.** -/
theorem forget_predict (forgets : whole.Forgets part forget) (session : Session α M) :
    (session.forget forget).predict part =
      ((session.predict whole).1.forget forget, (session.predict whole).2) := by
  have able : (session.forget forget).canPredict part = session.canPredict whole := by
    show ((session.expected?.isSome || part.isReady (forget session.memory)) && _) = _
    rw [forgets.isReady]
    rfl
  unfold predict
  rw [able, forecast_forget forgets]
  by_cases ready : session.canPredict whole = true
  · rw [if_pos ready, if_pos ready]
    rfl
  · rw [if_neg ready, if_neg ready]

theorem pad_forget (forgets : whole.Forgets part forget) (session : Session α M)
    (prediction : Option (Prediction α)) :
    (session.forget forget).pad part prediction = session.pad whole prediction := by
  have padded : (session.forget forget).padding part = session.padding whole := by
    unfold padding
    rw [last_forget forgets]
    show session.furthest.getD (boundedSample _ (part.restPressure (forget session.memory))) = _
    rw [forgets.restPressure]
  unfold pad
  rw [padded]
  rfl

/-- **One command.** -/
theorem forget_apply (forgets : whole.Forgets part forget) (session : Session α M)
    (command : Command α) :
    (session.forget forget).apply part command =
      ((session.apply whole command).1.forget forget, (session.apply whole command).2) := by
  unfold apply answer
  cases command with
  | setTarget milliseconds => rfl
  | setRate milliseconds =>
    unfold setRate
    by_cases refused : milliseconds ≤ 0
    · simp only [if_pos refused]
    · simp only [if_neg refused]
      rfl
  | beginStroke pointer =>
    exact congrArg (·, Outcome.done) (forget_beginStroke forgets session pointer).symm
  | observe event =>
    dsimp only
    rw [forget_observe forgets]
  | predict =>
    dsimp only
    rw [forget_predict forgets]
  | pad prediction =>
    dsimp only
    rw [pad_forget forgets]

/-- **The state after any run.** -/
theorem stateAfter_forget (forgets : whole.Forgets part forget) (session : Session α M)
    (commands : List (Command α)) :
    stateAfter (apply part) (session.forget forget) commands =
      (stateAfter (apply whole) session commands).forget forget := by
  induction commands generalizing session with
  | nil => rfl
  | cons command rest ih => rw [stateAfter_cons, forget_apply forgets, ih, stateAfter_cons]

/-- **The answers to any run.** -/
theorem answersTo_forget (forgets : whole.Forgets part forget) (session : Session α M)
    (commands : List (Command α)) :
    answersTo (apply part) (session.forget forget) commands =
      answersTo (apply whole) session commands := by
  induction commands generalizing session with
  | nil => rfl
  | cons command rest ih => rw [answersTo, forget_apply forgets, ih, answersTo]

omit [Scalar α] in
theorem forget_start (forgets : whole.Forgets part forget) :
    (start whole).forget forget = start part :=
  Session.ext rfl rfl rfl forgets.blank rfl

end Session

/-! ### Two sizes of the history -/

namespace Session

/-- An extrapolation and one that remembers the least, after the same commands. -/
theorem stateAfter_least (tuning : LinearTuning α) (commands : List (Command α)) :
    stateAfter (apply (linear tuning.least)) (start (linear tuning.least)) commands =
      (stateAfter (apply (linear tuning)) (start (linear tuning)) commands).forget Motion.recent := by
  rw [← forget_start (linear_forgets tuning), stateAfter_forget (linear_forgets tuning)]

theorem answersTo_least (tuning : LinearTuning α) (commands : List (Command α)) :
    answersTo (apply (linear tuning.least)) (start (linear tuning.least)) commands =
      answersTo (apply (linear tuning)) (start (linear tuning)) commands := by
  rw [← forget_start (linear_forgets tuning), answersTo_forget (linear_forgets tuning)]

/-- **What an extrapolation remembers**: the end of the current stroke, oldest sample first. -/
theorem history_stateAfter (tuning : LinearTuning α) (commands : List (Command α)) :
    let session := stateAfter (apply (linear tuning)) (start (linear tuning)) commands
    let stroke := (Chronicle.ofApplied commands).current
    session.last (linear tuning) = stroke.getLast? ∧
      session.memory.history.reverse = stroke.rtake (min stroke.length (Motion.depth tuning)) := by
  intro session stroke
  have fresh : (start (linear tuning)).Follows (linear tuning) .unknown .empty := .start
  obtain ⟨initial, follows⟩ := fresh.stateAfter_apply commands
  refine ⟨follows.last, ?_⟩
  have memory : session.memory = stroke.foldl (Motion.absorb tuning) .blank := follows.memory
  rw [memory, Motion.history_foldl_absorb, List.rtake_eq_reverse_take_reverse, ← List.length_reverse,
    min_comm, List.take_eq_take_min]

end Session

/-- **A bounded history loses nothing.** Let two extrapolations differ in the size of their history
only. After any commands, they have given the same answers, and are in the same state but for the
history: the smoothed velocity and acceleration are the same, and so is what is kept beside the memory.
The history of either is the end of the current stroke, oldest sample first: as many of its accepted
samples as the size says, but at least three, if there are so many. -/
theorem history_isSufficient (tuning : LinearTuning α) (size other : Nat)
    (commands : List (Command α)) :
    let few := linear { tuning with historySize := size }
    let many := linear { tuning with historySize := other }
    let one := stateAfter (Session.apply few) (Session.start few) commands
    let two := stateAfter (Session.apply many) (Session.start many) commands
    let stroke := (Chronicle.ofApplied commands).current
    answersTo (Session.apply few) (Session.start few) commands =
        answersTo (Session.apply many) (Session.start many) commands ∧
      one.memory.velocity = two.memory.velocity ∧
      one.memory.acceleration = two.memory.acceleration ∧
      one = { two with memory := { two.memory with history := one.memory.history } } ∧
      one.last few = stroke.getLast? ∧
      one.memory.history.reverse = stroke.rtake (min stroke.length (max size 3)) ∧
      two.memory.history.reverse = stroke.rtake (min stroke.length (max other 3)) := by
  intro few many one two stroke
  let smaller : LinearTuning α := { tuning with historySize := size }
  let larger : LinearTuning α := { tuning with historySize := other }
  -- either is told apart from an extrapolation that remembers the least by its history only
  have answers := (Session.answersTo_least smaller commands).symm.trans
    (Session.answersTo_least larger commands)
  have states : one.forget Motion.recent = two.forget Motion.recent :=
    (Session.stateAfter_least smaller commands).symm.trans
      (Session.stateAfter_least larger commands)
  obtain ⟨pointer, target, rate, memory, furthest⟩ := Session.ext_iff.mp states
  obtain ⟨_, velocity, acceleration⟩ := Motion.ext_iff.mp memory
  obtain ⟨ended, history⟩ := Session.history_stateAfter smaller commands
  obtain ⟨_, history'⟩ := Session.history_stateAfter larger commands
  refine ⟨answers, velocity, acceleration, ?_, ended, history, history'⟩
  exact Session.ext pointer target rate (Motion.ext rfl velocity acceleration) furthest

end PointerForecast
