/-
**What the caller has set.**

Of the state of a session, its caller chooses three parts: the tracked pointer, the target and the
explicit rate. Samples and predictions leave them alone, so after any run each is what some command
gave last, or what the session was built with.

* `Session.setup_observe`, `Session.setup_predict`: an event and a prediction leave the setup alone.
* `Session.setup_serve`, `Session.setup_apply`: **one command and the setup.**
* `Predictor.pointer_stateAfter`, `Predictor.target_stateAfter`, `Predictor.given?_stateAfter`:
  **the setup after a run.**
-/

import PointerForecast.Proofs.Run
import PointerForecast.Settings.Check

namespace PointerForecast

/-- The rate that was given, if one was. -/
def ReportRate.given? {α : Type} : ReportRate α → Option α
  | .overridden rate => some rate
  | _ => none

theorem ReportRate.given?_eq_some {α : Type} {rate : ReportRate α} {value : α} :
    rate.given? = some value ↔ rate = .overridden value := by
  cases rate <;> simp [given?]

/-- What the caller of a session has set. -/
@[ext]
structure Setup (α : Type) where
  /-- The tracked pointer. -/
  pointer : PointerId
  /-- The target in milliseconds, never negative. -/
  target : Int32
  /-- The explicit rate, once there is one. -/
  rate? : Option α

/-- The setup of a session. -/
def Session.setup {α M : Type} (session : Session α M) : Setup α :=
  ⟨session.pointer, session.target, session.rate.given?⟩

/-! ### What a command gives -/

/-- The target in force when one is asked for: a negative one counts as zero. -/
def targetInForce (milliseconds : Int32) : Int32 := if milliseconds < 0 then 0 else milliseconds

theorem toInt_targetInForce (milliseconds : Int32) :
    (targetInForce milliseconds).toInt = max 0 milliseconds.toInt := by
  unfold targetInForce
  by_cases negative : milliseconds < 0
  · have below := Int32.lt_iff_toInt_lt.mp negative
    rw [Int32.toInt_zero] at below
    rw [if_pos negative, Int32.toInt_zero]
    omega
  · have above := Int32.le_iff_toInt_le.mp (Int32.not_lt.mp negative)
    rw [Int32.toInt_zero] at above
    rw [if_neg negative]
    omega

namespace Command

variable {α : Type}

/-- The target that a command asks for. -/
def target? : Command α → Option Int32
  | .setTarget milliseconds => some milliseconds
  | _ => none

/-- The rate that a command gives; one that is not positive is refused. -/
def rate? : Command α → Option Int32
  | .setRate milliseconds => if milliseconds ≤ 0 then none else some milliseconds
  | _ => none

/-- The pointer that a stroke begins with: that of the command, or the first one of a contact. -/
def pointer? : Command α → Option PointerId
  | .beginStroke pointer => some pointer
  | .observe event => if event.action = .down then event.pointers.head? else none
  | _ => none

/-- The pointer that a command of the strategy itself begins a stroke with. -/
def begun? : Command α → Option PointerId
  | .beginStroke pointer => some pointer
  | _ => none

theorem pos_of_mem_rate? {command : Command α} {milliseconds : Int32}
    (given : milliseconds ∈ command.rate?) : 0 < milliseconds := by
  cases command with
  | setRate asked =>
    rw [rate?] at given
    split at given
    · cases given
    · rename_i positive
      obtain rfl : asked = milliseconds := Option.some.inj given
      exact Int32.not_le.mp positive
  | _ => cases given

end Command

namespace Session

variable {α M : Type} [Scalar α] (strategy : Strategy α M)

/-! ### One command -/

theorem given?_record (rate : ReportRate α) (delta : α) :
    (rate.record delta).given? = rate.given? := by
  cases rate with
  | accumulating deltas =>
    rw [ReportRate.record_accumulating]
    split <;> rfl
  | capped mean => rfl
  | overridden rate => rfl

theorem setup_accept (session : Session α M) (moment : Moment α) :
    (session.accept strategy moment).setup = session.setup := by
  unfold setup accept
  cases session.last strategy with
  | none => rfl
  | some previous => simp only [given?_record]

theorem setup_take (session : Session α M) (moment : Moment α) :
    (session.take strategy moment).setup = session.setup := by
  unfold take
  split
  · rfl
  · exact setup_accept strategy session moment

theorem setup_foldl_take (session : Session α M) (moments : List (Moment α)) :
    (moments.foldl (take strategy) session).setup = session.setup := by
  induction moments generalizing session with
  | nil => rfl
  | cons moment rest ih => rw [List.foldl_cons, ih, setup_take]

/-- An event leaves the setup alone. -/
theorem setup_observe (session : Session α M) (event : MotionEvent α) :
    (session.observe strategy event).1.setup = session.setup := by
  unfold observe
  split
  · rfl
  · split
    · exact setup_foldl_take strategy session _
    · rfl

/-- A prediction leaves the setup alone. -/
theorem setup_predict (session : Session α M) :
    (session.predict strategy).1.setup = session.setup := by
  unfold predict
  split <;> rfl

/-- Recording an event is observing it, in a new stroke if the event begins one. -/
theorem record_eq_observe (session : Session α M) (event : MotionEvent α) :
    session.record strategy event =
      ((Command.pointer? (.observe event)).elim session (session.beginStroke strategy)).observe
        strategy event := by
  obtain ⟨action, pointers, batches⟩ := event
  cases action with
  | down => cases pointers <;> rfl
  | move => rfl
  | up => rfl
  | cancel => rfl

theorem setup_record (session : Session α M) (event : MotionEvent α) :
    (session.record strategy event).1.setup =
      { session.setup with
        pointer := (Command.pointer? (.observe event)).getD session.pointer } := by
  rw [record_eq_observe, setup_observe]
  cases Command.pointer? (.observe event) <;> rfl

/-- **One command and the setup.** -/
theorem setup_serve (session : Session α M) (command : Command α) :
    (session.serve strategy command).1.setup =
      { pointer := command.pointer?.getD session.pointer
        target := (command.target?.map targetInForce).getD session.target
        rate? := (command.rate?.map fun milliseconds => (milliseconds.toInt : α)).or
          session.rate.given? } := by
  cases command with
  | setTarget milliseconds => rfl
  | setRate milliseconds =>
    by_cases refused : milliseconds ≤ 0
    · simp only [serve, answer, setRate, Command.rate?, if_pos refused]
      rfl
    · simp only [serve, answer, setRate, Command.rate?, if_neg refused]
      rfl
  | beginStroke pointer => rfl
  | observe event => exact setup_record strategy session event
  | predict => exact setup_predict strategy session
  | pad prediction => rfl

/-- **One command to the strategy itself**, which begins no stroke of its own accord. -/
theorem setup_apply (session : Session α M) (command : Command α) :
    (session.apply strategy command).1.setup =
      { pointer := command.begun?.getD session.pointer
        target := (command.target?.map targetInForce).getD session.target
        rate? := (command.rate?.map fun milliseconds => (milliseconds.toInt : α)).or
          session.rate.given? } := by
  cases command with
  | observe event => exact setup_observe strategy session event
  | predict => exact setup_predict strategy session
  | setTarget milliseconds => exact setup_serve strategy session (.setTarget milliseconds)
  | setRate milliseconds => exact setup_serve strategy session (.setRate milliseconds)
  | beginStroke pointer => exact setup_serve strategy session (.beginStroke pointer)
  | pad prediction => exact setup_serve strategy session (.pad prediction)

/-! ### A run of a session -/

theorem target_stateAfter_apply (session : Session α M) (commands : List (Command α)) :
    (stateAfter (apply strategy) session commands).setup.target =
      ((latest? Command.target? commands).map targetInForce).getD session.setup.target := by
  rw [← latest?_map]
  exact value_stateAfter (apply strategy) (fun state => state.setup.target) _
    (fun state command => by rw [setup_apply]; rfl) session commands

theorem given?_stateAfter_apply (session : Session α M) (commands : List (Command α)) :
    (stateAfter (apply strategy) session commands).setup.rate? =
      ((latest? Command.rate? commands).map fun milliseconds => (milliseconds.toInt : α)).or
        session.setup.rate? := by
  rw [← latest?_map]
  exact read_stateAfter (apply strategy) (fun state => state.setup.rate?) _
    (fun state command => by rw [setup_apply]; rfl) session commands

end Session

/-! ### A run of a predictor -/

namespace Predictor

variable {α : Type} [Scalar α]

/-- The pointer that a predictor tracks. -/
def pointer : Predictor α → PointerId
  | .kalman _ session => session.pointer
  | .linear _ session => session.pointer

/-- What a predictor knows about the report rate. -/
def rate : Predictor α → ReportRate α
  | .kalman _ session => session.rate
  | .linear _ session => session.rate

/-- The setup of a predictor. -/
def setup (predictor : Predictor α) : Setup α :=
  ⟨predictor.pointer, predictor.target, predictor.rate.given?⟩

theorem setup_serve (predictor : Predictor α) (command : Command α) :
    (predictor.serve command).1.setup =
      { pointer := command.pointer?.getD predictor.setup.pointer
        target := (command.target?.map targetInForce).getD predictor.setup.target
        rate? := (command.rate?.map fun milliseconds => (milliseconds.toInt : α)).or
          predictor.setup.rate? } := by
  cases predictor with
  | kalman noise session => exact Session.setup_serve _ session command
  | linear tuning session => exact Session.setup_serve _ session command

/-- **The tracked pointer after a run.** -/
theorem pointer_stateAfter (predictor : Predictor α) (commands : List (Command α)) :
    (stateAfter serve predictor commands).setup.pointer =
      (latest? Command.pointer? commands).getD predictor.setup.pointer := by
  exact value_stateAfter serve (fun state => state.setup.pointer) Command.pointer?
    (fun state command => by rw [setup_serve]) predictor commands

/-- **The target after a run.** -/
theorem target_stateAfter (predictor : Predictor α) (commands : List (Command α)) :
    (stateAfter serve predictor commands).setup.target =
      ((latest? Command.target? commands).map targetInForce).getD predictor.setup.target := by
  rw [← latest?_map]
  exact value_stateAfter serve (fun state => state.setup.target) _
    (fun state command => by rw [setup_serve]) predictor commands

/-- **The explicit rate after a run.** -/
theorem given?_stateAfter (predictor : Predictor α) (commands : List (Command α)) :
    (stateAfter serve predictor commands).setup.rate? =
      ((latest? Command.rate? commands).map fun milliseconds => (milliseconds.toInt : α)).or
        predictor.setup.rate? := by
  rw [← latest?_map]
  exact read_stateAfter serve (fun state => state.setup.rate?) _
    (fun state command => by rw [setup_serve]) predictor commands

/-- A session with some settings is a new one with their target, and with their rate if they give
one, which is positive. -/
theorem configure_eq_ok {M : Type} {settings : PredictorSettings α} {strategy : Strategy α M}
    {session : Session α M} (built : configure settings strategy = .ok session) :
    (settings.rate? = none ∧ session = (Session.start strategy).setTarget settings.target) ∨
      ∃ milliseconds, settings.rate? = some milliseconds ∧ 0 < milliseconds ∧
        session = { (Session.start strategy).setTarget settings.target with
          rate := .overridden (milliseconds.toInt : α) } := by
  unfold configure at built
  cases chosen : settings.rate? with
  | none =>
    rw [chosen] at built
    exact Or.inl ⟨rfl, (Except.ok.inj built).symm⟩
  | some rate =>
    rw [chosen] at built
    unfold Session.setRate at built
    dsimp only at built
    by_cases refused : rate ≤ 0
    · rw [if_pos refused] at built
      cases built
    · rw [if_neg refused] at built
      exact Or.inr ⟨rate, rfl, Int32.not_le.mp refused, (Except.ok.inj built).symm⟩

theorem setup_configure {M : Type} {settings : PredictorSettings α} {strategy : Strategy α M}
    {session : Session α M} (built : configure settings strategy = .ok session) :
    session.setup =
        ⟨0, targetInForce settings.target,
          settings.rate?.map fun milliseconds => (milliseconds.toInt : α)⟩ ∧
      ∀ milliseconds ∈ settings.rate?, 0 < milliseconds := by
  rcases configure_eq_ok built with ⟨none, rfl⟩ | ⟨rate, given, positive, rfl⟩
  · rw [none]
    exact ⟨rfl, fun milliseconds given => by cases given⟩
  · rw [given]
    refine ⟨rfl, fun milliseconds same => ?_⟩
    obtain rfl : rate = milliseconds := Option.some.inj same
    exact positive

/-- A predictor is built from a session with its settings. -/
theorem ofSettings_eq_ok {settings : PredictorSettings α} {start : Predictor α}
    (built : ofSettings settings = .ok start) :
    (settings.strategy = .kalman ∧
        ∃ session, configure settings (PointerForecast.kalman settings.noise) = .ok session ∧
          start = .kalman settings.noise session) ∨
      settings.strategy = .linear ∧
        ∃ session, configure settings (PointerForecast.linear settings.linear) = .ok session ∧
          start = .linear settings.linear session := by
  unfold ofSettings at built
  cases chosen : settings.strategy with
  | kalman =>
    rw [chosen] at built
    cases configured : configure settings (PointerForecast.kalman settings.noise) with
    | error fault => rw [configured] at built; cases built
    | ok session => rw [configured] at built; cases built; exact Or.inl ⟨rfl, session, rfl, rfl⟩
  | linear =>
    rw [chosen] at built
    cases configured : configure settings (PointerForecast.linear settings.linear) with
    | error fault => rw [configured] at built; cases built
    | ok session => rw [configured] at built; cases built; exact Or.inr ⟨rfl, session, rfl, rfl⟩

/-- **The setup of a new predictor** is that of its settings, whose rate is positive. -/
theorem setup_ofSettings {settings : PredictorSettings α} {start : Predictor α}
    (built : ofSettings settings = .ok start) :
    start.setup =
        ⟨0, targetInForce settings.target,
          settings.rate?.map fun milliseconds => (milliseconds.toInt : α)⟩ ∧
      ∀ milliseconds ∈ settings.rate?, 0 < milliseconds := by
  rcases ofSettings_eq_ok built with
    ⟨_, session, configured, rfl⟩ | ⟨_, session, configured, rfl⟩
  · exact setup_configure configured
  · exact setup_configure configured

theorem configure_of_positive {M : Type} {settings : PredictorSettings α} (strategy : Strategy α M)
    (positive : ∀ milliseconds ∈ settings.rate?, 0 < milliseconds) :
    ∃ session, configure settings strategy = .ok session := by
  unfold configure
  cases chosen : settings.rate? with
  | none => exact ⟨_, rfl⟩
  | some rate =>
    unfold Session.setRate
    dsimp only
    rw [if_neg (Int32.not_le.mpr (positive rate chosen))]
    exact ⟨_, rfl⟩

/-- **Accepted settings describe a predictor.** -/
theorem ofSettings_of_accepted {settings : Settings α} (accepted : settings.fault? = none) :
    ∃ start, ofSettings settings.predictor = .ok start := by
  have positive : ∀ milliseconds ∈ settings.predictor.rate?, 0 < milliseconds := by
    intro milliseconds given
    unfold Settings.fault? at accepted
    dsimp only at accepted
    rw [Option.mem_def.mp given] at accepted
    by_cases refused : milliseconds ≤ 0
    · rw [Option.filter_some, if_pos (decide_eq_true refused)] at accepted
      cases accepted
    · exact Int32.not_le.mp refused
  unfold ofSettings
  cases settings.predictor.strategy with
  | kalman =>
    obtain ⟨session, configured⟩ := configure_of_positive
      (PointerForecast.kalman settings.predictor.noise) positive
    exact ⟨.kalman _ session, by rw [configured]; rfl⟩
  | linear =>
    obtain ⟨session, configured⟩ := configure_of_positive
      (PointerForecast.linear settings.predictor.linear) positive
    exact ⟨.linear _ session, by rw [configured]; rfl⟩

end Predictor

end PointerForecast
