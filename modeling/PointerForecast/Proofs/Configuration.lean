/-
**The configuration of a session.**

A session is configured by two commands: one sets the target, the other the rate. From both follows
how many samples are expected. Nothing else that a session is told or asked touches them, so the
configuration is what the latest target and the latest accepted rate make of it, in whatever order they
came. A rate that is not positive is refused, and then nothing at all has changed.

* `Configuration.of`: the configuration with a target and a rate.
* `Session.apply_setRate_eq_error_iff`, `Session.apply_setRate_of_refused`: which rates are refused.
* `Session.configuration_apply`: **one command and the configuration.**
* `Session.recount`, `Session.applyKeeping`: the expected samples as a number that is kept beside the
  session and computed anew by the two commands only; `Session.stateAfter_applyKeeping`: **the number
  kept is the number expected**, by induction on the commands.
* `Session.configuration_stateAfter`: **the configuration after any run.**
-/

import PointerForecast.Proofs.ExplicitRate

namespace PointerForecast

/-- What a caller configures of a session, and what follows from it. -/
@[ext]
structure Configuration (α : Type) where
  /-- The target in milliseconds, never negative. -/
  target : Int32
  /-- The explicit rate, once there is one. -/
  rate? : Option α
  /-- How many samples are expected, once there is an explicit rate. -/
  expected? : Option Nat
deriving DecidableEq

variable {α M : Type} [Scalar α]

/-- The configuration with a target and a rate. -/
def Configuration.of (target : Int32) (rate? : Option α) : Configuration α :=
  ⟨target, rate?, rate?.map fun rate => Scalar.ceilNat ((target.toInt : α) / rate)⟩

omit [Scalar α] in
theorem isSome_latest?_iff {β : Type} {given? : Command α → Option β}
    {commands : List (Command α)} : (latest? given? commands).isSome = true ↔
      ∃ command ∈ commands, (given? command).isSome = true := by
  unfold latest?
  rw [List.getLast?_isSome, ne_eq, List.filterMap_eq_nil_iff]
  push Not
  simp only [Option.isSome_iff_ne_none]

omit [Scalar α] in
theorem Command.isSome_rate?_iff {command : Command α} :
    command.rate?.isSome = true ↔
      ∃ milliseconds, 0 < milliseconds ∧ command = .setRate milliseconds := by
  cases command with
  | setRate asked =>
    rw [Command.rate?]
    by_cases refused : asked ≤ 0
    · simp [refused]
    · simpa [refused] using Int32.not_le.mp refused
  | _ => simp [Command.rate?]

omit [Scalar α] in
/-- There is a latest rate if and only if a positive one was given. -/
theorem isSome_latestRate_iff {commands : List (Command α)} :
    (latest? Command.rate? commands).isSome = true ↔
      ∃ milliseconds, 0 < milliseconds ∧ Command.setRate milliseconds ∈ commands := by
  rw [isSome_latest?_iff]
  constructor
  · rintro ⟨command, member, given⟩
    obtain ⟨milliseconds, positive, rfl⟩ := Command.isSome_rate?_iff.mp given
    exact ⟨milliseconds, positive, member⟩
  · rintro ⟨milliseconds, positive, member⟩
    exact ⟨_, member, Command.isSome_rate?_iff.mpr ⟨milliseconds, positive, rfl⟩⟩

omit [Scalar α] in
theorem ReportRate.isOverridden_eq (rate : ReportRate α) : rate.isOverridden = rate.given?.isSome := by
  cases rate <;> rfl

namespace Session

/-- The configuration of a session. -/
def configuration (session : Session α M) : Configuration α :=
  ⟨session.target, session.rate.given?, session.expected?⟩

theorem configuration_eq (session : Session α M) :
    session.configuration = .of session.setup.target session.setup.rate? :=
  Configuration.ext rfl rfl session.expected?_eq_map

/-! ### One command -/

variable (strategy : Strategy α M)

theorem apply_setRate (session : Session α M) (milliseconds : Int32) :
    session.apply strategy (.setRate milliseconds) =
      if milliseconds ≤ 0 then (session, .rate (.error (.invalidReportRate milliseconds)))
      else ({ session with rate := .overridden (milliseconds.toInt : α) }, .rate (.ok ())) := by
  unfold apply answer setRate
  by_cases refused : milliseconds ≤ 0
  · simp only [if_pos refused]
  · simp only [if_neg refused]
    rfl

/-- **Which rates are refused**, and why. -/
theorem apply_setRate_eq_error_iff (session : Session α M) (milliseconds : Int32) (fault : Fault) :
    (session.apply strategy (.setRate milliseconds)).2 = .rate (.error fault) ↔
      milliseconds ≤ 0 ∧ fault = .invalidReportRate milliseconds := by
  rw [apply_setRate]
  by_cases refused : milliseconds ≤ 0
  · simp [refused, eq_comm]
  · simp [refused]

/-- A rate that is refused changes nothing. -/
theorem apply_setRate_of_refused (session : Session α M) {milliseconds : Int32}
    (refused : milliseconds ≤ 0) : (session.apply strategy (.setRate milliseconds)).1 = session := by
  rw [apply_setRate, if_pos refused]

/-- **One command and the configuration**: it is that of the target and the rate that the command
gives, or those before it. -/
theorem configuration_apply (session : Session α M) (command : Command α) :
    (session.apply strategy command).1.configuration =
      .of ((command.target?.map targetInForce).getD session.target)
        ((command.rate?.map fun milliseconds => (milliseconds.toInt : α)).or session.rate.given?) := by
  rw [configuration_eq, setup_apply]

theorem configuration_apply_of_silent (session : Session α M) {command : Command α}
    (target : command.target? = none) (rate : command.rate? = none) :
    (session.apply strategy command).1.configuration = session.configuration := by
  rw [configuration_apply, configuration_eq, target, rate]
  rfl

/-! ### The number kept -/

/-- The number of samples kept when the target or the rate was set: once a rate was given it is
computed anew. -/
def recount (session : Session α M) (kept : Option Nat) : Option Nat :=
  if session.rate.isOverridden then
    some (Scalar.ceilNat (session.targetTime / session.rate.milliseconds))
  else kept

/-- Answers a command as the strategy does, and keeps a number of samples beside the session. -/
def applyKeeping (state : Session α M × Option Nat) (command : Command α) :
    (Session α M × Option Nat) × Outcome α :=
  let (next, outcome) := state.1.apply strategy command
  let kept := match command, outcome with
    | .setTarget _, _ => next.recount state.2
    | .setRate _, .rate (.ok _) => next.recount state.2
    | _, _ => state.2
  ((next, kept), outcome)

theorem recount_eq (session : Session α M) (kept : Option Nat) :
    session.recount kept = session.expected?.or kept := by
  unfold recount expected?
  cases session.rate <;> rfl

/-- **One command**: where the number kept is the number expected, it still is. -/
theorem applyKeeping_of_expected? (session : Session α M) (command : Command α) :
    applyKeeping strategy (session, session.expected?) command =
      (((session.apply strategy command).1, (session.apply strategy command).1.expected?),
        (session.apply strategy command).2) := by
  have silent (target : command.target? = none) (rate : command.rate? = none) :
      (session.apply strategy command).1.expected? = session.expected? :=
    congrArg Configuration.expected? (configuration_apply_of_silent strategy session target rate)
  cases command with
  | setTarget milliseconds =>
    refine congrArg (fun kept => ((session.setTarget milliseconds, kept), Outcome.done)) ?_
    show (session.setTarget milliseconds).recount session.expected? = _
    have same : (session.setTarget milliseconds).setup.rate? = session.setup.rate? := rfl
    show _ = (session.setTarget milliseconds).expected?
    -- the rate is what it was, so both numbers are known or none is
    rw [recount_eq, expected?_eq_map, expected?_eq_map, same]
    cases session.setup.rate? <;> rfl
  | setRate milliseconds =>
    unfold applyKeeping
    rw [apply_setRate]
    by_cases refused : milliseconds ≤ 0
    · rw [if_pos refused]
    · rw [if_neg refused]
      rfl
  | beginStroke pointer => rw [silent rfl rfl]; rfl
  | observe event => rw [silent rfl rfl]; rfl
  | predict => rw [silent rfl rfl]; rfl
  | pad prediction => rw [silent rfl rfl]; rfl

/-- **The number kept is the number expected.** -/
theorem stateAfter_applyKeeping (session : Session α M) (commands : List (Command α)) :
    stateAfter (applyKeeping strategy) (session, session.expected?) commands =
      (stateAfter (apply strategy) session commands,
        (stateAfter (apply strategy) session commands).expected?) := by
  induction commands generalizing session with
  | nil => rfl
  | cons command rest ih =>
    rw [stateAfter_cons, applyKeeping_of_expected?, ih, stateAfter_cons]

/-! ### After any run -/

/-- **The configuration after a run** of a new session: that of the latest target and the latest rate
that was not refused. -/
theorem configuration_stateAfter_start (commands : List (Command α)) :
    (stateAfter (apply strategy) (start strategy) commands).configuration =
      .of (targetInForce ((latest? Command.target? commands).getD 0))
        ((latest? Command.rate? commands).map fun milliseconds => (milliseconds.toInt : α)) := by
  rw [configuration_eq, target_stateAfter_apply, given?_stateAfter_apply]
  refine congrArg₂ Configuration.of ?_ Option.or_none
  cases latest? Command.target? commands <;> rfl

/-- **The configuration of a session** depends on its latest target and its latest accepted rate.
After any commands to a new session, of either strategy,

* the target is the one set last, a negative one counted as zero, and zero if none was set;
* a rate is explicit if and only if a positive one was set, and it is the last such one;
* samples are expected if and only if the rate is explicit, as many as the target takes at the rate,
  rounded up, and this is the number that the two setters keep up to date;
* any other commands with the same last target and the same last positive rate lead to the same
  configuration.

Now a rate is refused if and only if it is not positive, by the fault that names it, and then the whole
session stays as it is. A stroke that begins, an event, a prediction and its padding leave the
configuration as it is. -/
theorem configuration_stateAfter (commands : List (Command α)) :
    let session := stateAfter (apply strategy) (start strategy) commands
    let target := max 0 ((latest? Command.target? commands).getD 0).toInt
    let rate? := latest? Command.rate? commands
    (session.target.toInt = target ∧
      (session.rate.isOverridden = true ↔
        ∃ milliseconds, 0 < milliseconds ∧ Command.setRate milliseconds ∈ commands) ∧
      (∀ milliseconds ∈ rate?, session.rate.milliseconds = (milliseconds.toInt : α)) ∧
      (session.expected?.isSome = session.rate.isOverridden) ∧
      (session.expected? = rate?.map fun milliseconds =>
        Scalar.ceilNat ((target : α) / (milliseconds.toInt : α))) ∧
      (stateAfter (applyKeeping strategy) (start strategy, none) commands).2 = session.expected? ∧
      ∀ others, latest? Command.target? others = latest? Command.target? commands →
        latest? Command.rate? others = rate? →
        (stateAfter (apply strategy) (start strategy) others).configuration =
          session.configuration) ∧
    (∀ milliseconds fault,
      ((session.apply strategy (.setRate milliseconds)).2 = .rate (.error fault) ↔
        milliseconds ≤ 0 ∧ fault = .invalidReportRate milliseconds) ∧
      (milliseconds ≤ 0 → (session.apply strategy (.setRate milliseconds)).1 = session)) ∧
    ∀ pointer event prediction,
      ∀ command ∈ [.beginStroke pointer, .observe event, .predict, .pad prediction],
        (session.apply strategy command).1.configuration = session.configuration := by
  intro session target rate?
  have configured := configuration_stateAfter_start strategy commands
  have inForce : session.target.toInt = target :=
    (congrArg (fun settled => settled.target.toInt) configured).trans (toInt_targetInForce _)
  have given : session.rate.given? = rate?.map fun milliseconds => (milliseconds.toInt : α) :=
    congrArg Configuration.rate? configured
  have explicit : session.rate.isOverridden = rate?.isSome := by
    rw [ReportRate.isOverridden_eq, given, Option.isSome_map]
  have expected : session.expected? = rate?.map fun milliseconds =>
      Scalar.ceilNat ((target : α) / (milliseconds.toInt : α)) := by
    rw [expected?_eq_map, show session.setup.rate? = session.rate.given? from rfl, given,
      Option.map_map, ← inForce]
    rfl
  refine ⟨⟨inForce, ?_, ?_, ?_, expected, ?_, ?_⟩, ?_, ?_⟩
  · rw [explicit, isSome_latestRate_iff]
  · intro milliseconds last
    rw [Option.mem_def.mp last, Option.map_some, ReportRate.given?_eq_some] at given
    rw [given]
    rfl
  · rw [expected, explicit, Option.isSome_map]
  · exact congrArg Prod.snd (stateAfter_applyKeeping strategy (start strategy) commands)
  · intro others sameTarget sameRate
    rw [configured, configuration_stateAfter_start, sameTarget, sameRate]
  · intro milliseconds fault
    exact ⟨apply_setRate_eq_error_iff strategy session milliseconds fault,
      apply_setRate_of_refused strategy session⟩
  · intro pointer event prediction command member
    simp only [List.mem_cons, List.not_mem_nil, or_false] at member
    rcases member with rfl | rfl | rfl | rfl <;>
      exact configuration_apply_of_silent strategy session rfl rfl

/-- A session with the filter whose target and rate are set again and again, a sample and a prediction
between them: the target of -1 counts as zero until the one of 20, the rate of -3 is refused, and three
samples of 8 ms are expected, though those observed are 5 ms apart. Two commands alone lead to the same
configuration. -/
theorem configuration_stateAfter_interleaved :
    let strategy := kalman (.ink : Noise Float)
    let sampled : MotionEvent Float := ⟨.down, [7], [⟨0, [⟨0, 0, 1⟩]⟩, ⟨5, [⟨8, 4, 1⟩]⟩]⟩
    let commands : List (Command Float) := [.setRate 8, .beginStroke 7, .observe sampled,
      .setTarget 30, .setRate (-3), .predict, .setTarget (-1), .setTarget 20]
    let others : List (Command Float) := [.setTarget 20, .setRate 8]
    let session := stateAfter (apply strategy) (start strategy) commands
    session.target.toInt = 20 ∧ session.rate.isOverridden = true ∧
      session.rate.milliseconds = ((8 : Int) : Float) ∧ session.expected? = some 3 ∧
      (stateAfter (applyKeeping strategy) (start strategy, none) commands).2 = some 3 ∧
      (stateAfter (apply strategy) (start strategy) others).configuration = session.configuration ∧
      (session.apply strategy (.setRate 0)).2 = .rate (.error (.invalidReportRate 0)) ∧
      (session.apply strategy (.setRate 0)).1 = session ∧
      (session.apply strategy (.observe sampled)).1.configuration = session.configuration := by
  intro strategy sampled commands others session
  obtain ⟨⟨target, explicit, rate, _, expected, kept, order⟩, refused, silent⟩ :=
    configuration_stateAfter strategy commands
  have samples : session.expected? = some 3 := expected.trans (by decide +kernel)
  refine ⟨target, explicit.mpr ⟨8, by decide, .head _⟩, rate 8 (by decide), samples,
    kept.trans samples, order others (by decide) (by decide), ?_, ?_, ?_⟩
  · exact (refused 0 _).1.mpr ⟨by decide, rfl⟩
  · exact (refused 0 (.invalidReportRate 0)).2 (by decide)
  · exact silent 5 sampled none _ (.tail _ (.head _))

end Session

end PointerForecast
