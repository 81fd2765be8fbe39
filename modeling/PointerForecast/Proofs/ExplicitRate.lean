/-
**An explicit rate can always be used.**

Only a positive number of milliseconds becomes an explicit rate. In double precision it is a
positive, finite number, so a session with an explicit rate never waits to predict.

* `Scalar.HoldsRates`: numbers for which this is so; double precision is such.
* `Predictor.rateIsGiven_stateAfter`: **after any run, an explicit rate is one that was given**;
  `Session.rateIsGiven_stateAfter` says so of a session.
* `Session.canPredict_of_expected?`: **a session that expects samples can predict.**
-/

import PointerForecast.Proofs.Double.WholeNumber
import PointerForecast.Proofs.Setup

namespace PointerForecast

/-- Numbers in which a positive number of milliseconds is a rate by which a time can be divided. -/
class Scalar.HoldsRates (α : Type) [Scalar α] : Prop where
  /-- Every positive number of milliseconds is usable. -/
  isUsable : ∀ {milliseconds : Int32}, 0 < milliseconds →
    (ReportRate.overridden (milliseconds.toInt : α)).isUsable = true

instance : Scalar.HoldsRates Float where
  isUsable := by
    intro milliseconds positive
    have above := Int32.lt_iff_toInt_lt.mp positive
    have below := milliseconds.toInt_lt
    rw [Int32.toInt_zero] at above
    have finite := Double.isFinite_ofInt above (by omega)
    have greater := Double.ofInt_pos above (by omega)
    exact Bool.and_eq_true_iff.mpr ⟨finite, decide_eq_true greater⟩

variable {α M : Type} [Scalar α]

/-- Holds if the explicit rate, once there is one, is a positive number of milliseconds. -/
def Setup.RateIsGiven (setup : Setup α) : Prop :=
  ∀ rate ∈ setup.rate?, ∃ milliseconds : Int32, 0 < milliseconds ∧ rate = (milliseconds.toInt : α)

theorem Setup.rateIsGiven_of_pos {setup : Setup α} {milliseconds? : Option Int32}
    (chosen : setup.rate? = milliseconds?.map fun milliseconds => (milliseconds.toInt : α))
    (positive : ∀ milliseconds ∈ milliseconds?, 0 < milliseconds) : setup.RateIsGiven := by
  intro rate given
  rw [chosen] at given
  obtain ⟨milliseconds, same, rfl⟩ := Option.mem_map.mp given
  exact ⟨milliseconds, positive milliseconds same, rfl⟩

theorem ReportRate.record_overridden (rate delta : α) :
    (overridden rate).record delta = .overridden rate := rfl

namespace Predictor

theorem rateIsGiven_ofSettings {settings : PredictorSettings α} {start : Predictor α}
    (built : ofSettings settings = .ok start) : start.setup.RateIsGiven := by
  obtain ⟨setup, positive⟩ := setup_ofSettings built
  exact Setup.rateIsGiven_of_pos (congrArg Setup.rate? setup) positive

/-- **After any run, an explicit rate is one that was given.** -/
theorem rateIsGiven_stateAfter {predictor : Predictor α} (sound : predictor.setup.RateIsGiven)
    (commands : List (Command α)) : (stateAfter serve predictor commands).setup.RateIsGiven := by
  intro rate given
  rw [given?_stateAfter] at given
  rcases Option.or_eq_some_iff.mp given with later | ⟨_, earlier⟩
  · obtain ⟨milliseconds, chosen, rfl⟩ := Option.mem_map.mp later
    exact ⟨milliseconds,
      forall_latest? (fun _ _ => Command.pos_of_mem_rate?) commands _ chosen, rfl⟩
  · exact sound rate earlier

end Predictor

namespace Session

/-- How many samples are expected, by the rate that was given. -/
theorem expected?_eq_map (session : Session α M) : session.expected? =
    session.setup.rate?.map fun rate => Scalar.ceilNat (session.targetTime / rate) := by
  unfold expected? setup
  cases session.rate <;> rfl

theorem expected?_of_given {session : Session α M} {rate : α}
    (given : session.setup.rate? = some rate) :
    session.expected? = some (Scalar.ceilNat (session.targetTime / rate)) := by
  rw [expected?_eq_map, given, Option.map_some]

theorem given_of_expected? {session : Session α M} {expected : Nat}
    (known : session.expected? = some expected) : ∃ rate, session.setup.rate? = some rate := by
  rw [expected?_eq_map, Option.map_eq_some_iff] at known
  exact known.imp fun _ => And.left

/-- **A session that expects samples can predict.** -/
theorem canPredict_of_expected? [Scalar.HoldsRates α] (strategy : Strategy α M)
    {session : Session α M} (sound : session.setup.RateIsGiven) {expected : Nat}
    (known : session.expected? = some expected) : session.canPredict strategy = true := by
  obtain ⟨rate, given⟩ := given_of_expected? known
  obtain ⟨milliseconds, positive, rfl⟩ := sound rate given
  have usable := Scalar.HoldsRates.isUsable (α := α) positive
  unfold canPredict
  rw [known, ReportRate.given?_eq_some.mp given, usable]
  rfl

theorem expected?_of_waiting [Scalar.HoldsRates α] (strategy : Strategy α M)
    {session : Session α M} (sound : session.setup.RateIsGiven)
    (waiting : session.canPredict strategy ≠ true) : session.expected? = none := by
  cases known : session.expected? with
  | none => rfl
  | some expected => exact absurd (canPredict_of_expected? strategy sound known) waiting

theorem predictPadded_of_waiting [Scalar.HoldsRates α] (strategy : Strategy α M)
    {session : Session α M} (sound : session.setup.RateIsGiven)
    (waiting : session.canPredict strategy ≠ true) :
    session.predictPadded strategy = (session, none) := by
  unfold predictPadded predict pad
  rw [if_neg waiting]
  simp only [expected?_of_waiting strategy sound waiting]

/-! ### Runs of a session -/

theorem rateIsGiven_configure {settings : PredictorSettings α} {strategy : Strategy α M}
    {session : Session α M} (built : Predictor.configure settings strategy = .ok session) :
    session.setup.RateIsGiven := by
  obtain ⟨setup, positive⟩ := Predictor.setup_configure built
  exact Setup.rateIsGiven_of_pos (congrArg Setup.rate? setup) positive

variable {strategy : Strategy α M} {session : Session α M}

theorem rateIsGiven_serve (sound : session.setup.RateIsGiven) (command : Command α) :
    (session.serve strategy command).1.setup.RateIsGiven := by
  intro rate given
  rw [setup_serve] at given
  rcases Option.or_eq_some_iff.mp given with now | ⟨_, earlier⟩
  · obtain ⟨milliseconds, chosen, rfl⟩ := Option.mem_map.mp now
    exact ⟨milliseconds, Command.pos_of_mem_rate? chosen, rfl⟩
  · exact sound rate earlier

theorem rateIsGiven_stateAfter (sound : session.setup.RateIsGiven) (commands : List (Command α)) :
    (stateAfter (serve strategy) session commands).setup.RateIsGiven := by
  induction commands generalizing session with
  | nil => exact sound
  | cons command rest ih => exact ih (rateIsGiven_serve sound command)

theorem rateIsGiven_step (sound : session.setup.RateIsGiven) (event : MotionEvent α) :
    (session.step strategy event).1.setup.RateIsGiven := by
  have recorded : (session.serve strategy (.observe event)).1.setup.RateIsGiven :=
    rateIsGiven_serve sound _
  have predicted :
      ((session.serve strategy (.observe event)).1.serve strategy .predict).1.setup.RateIsGiven :=
    rateIsGiven_serve recorded _
  rw [step_eq]
  split
  · exact predicted
  · exact recorded

end Session

end PointerForecast
