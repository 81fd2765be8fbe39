/-
**No stored point outlives its use.**

A prediction stores the furthest point that it led to, and padding reads that point. A walk of the
filter always stores another one. The extrapolation has nowhere to start from until a sample was
accepted, and then leaves the stored point as it is; so it matters that there is none: a stroke begins
without one, and no walk stores one before the first sample.

* `Strategy.Renews`: a walk does not depend on what is stored; `linear_renews_iff`: when that is so.
* `Strategy.StoresInStroke`: what a strategy stores, and when; both strategies are such.
* `Session.IsRenewed`: a point is stored only where the next walk renews it.
* `IsRenewed.accept`, `IsRenewed.answer`: **one sample and one command.**
* `Session.furthest_eq_none`: **without a sample, an extrapolation stores nothing**;
  `Session.forecast_of_last`, `Session.forecast_of_no_last`: its forecasts.
* `Predictor.IsRenewed`: the same of a predictor; `Predictor.IsRenewed.stateAfter`: **any run.**
-/

import PointerForecast.Proofs.ExplicitRate

namespace PointerForecast

variable {α M : Type} [Scalar α]

/-! ### Strategies -/

/-- Holds of a memory whose walks do not depend on the stored point: they renew it. -/
def Strategy.Renews (strategy : Strategy α M) (memory : M) : Prop :=
  ∀ stored rate steps, strategy.walk memory stored rate steps = strategy.walk memory none rate steps

/-- Holds of a strategy that renews the stored point once a sample was accepted, and stores none where
it does not renew it. -/
structure Strategy.StoresInStroke (strategy : Strategy α M) : Prop where
  renews (memory : M) (moment : Moment α) : strategy.Renews (strategy.absorb memory moment)
  stays (memory : M) : strategy.Renews memory ∨
    ∀ rate steps, (strategy.walk memory none rate steps).furthest = none

theorem kalman_storesInStroke (noise : Noise α) : (kalman noise).StoresInStroke where
  renews _ _ _ _ _ := rfl
  stays _ := .inl fun _ _ _ => rfl

/-- An extrapolation renews the stored point where it has a sample to start from. -/
theorem linear_renews_iff (tuning : LinearTuning α) (motion : Motion α) :
    (linear tuning).Renews motion ↔ motion.history ≠ [] := by
  obtain ⟨history, velocity, acceleration⟩ := motion
  cases history with
  | nil =>
    refine iff_of_false (fun renews => ?_) (fun nonempty => nonempty rfl)
    have stored := congrArg Forecast.furthest (renews (some ⟨0, 0, 0⟩) 0 0)
    cases stored
  | cons last earlier => exact iff_of_true (fun _ _ _ => rfl) (List.cons_ne_nil _ _)

theorem linear_storesInStroke (tuning : LinearTuning α) : (linear tuning).StoresInStroke where
  renews motion moment := by
    refine (linear_renews_iff tuning _).mpr fun empty => ?_
    have latest := motion.head?_absorb tuning moment
    rw [show (motion.absorb tuning moment).history = [] from empty] at latest
    cases latest
  stays motion := by
    rw [linear_renews_iff]
    by_cases empty : motion.history = []
    · refine .inr fun rate steps => ?_
      rw [linear_walk_of_none tuning (List.head?_eq_none_iff.mpr empty)]
    · exact .inl empty

/-! ### Sessions -/

namespace Session

/-- Holds of a session that stores a point only where the next walk renews it. -/
def IsRenewed (strategy : Strategy α M) (session : Session α M) : Prop :=
  session.furthest = none ∨ strategy.Renews session.memory

namespace IsRenewed

variable {strategy : Strategy α M} {session : Session α M}

/-- **One accepted sample.** -/
theorem accept (stores : strategy.StoresInStroke) (session : Session α M) (moment : Moment α) :
    (session.accept strategy moment).IsRenewed strategy := .inr (stores.renews _ _)

theorem take (stores : strategy.StoresInStroke) (renewed : session.IsRenewed strategy)
    (moment : Moment α) : (session.take strategy moment).IsRenewed strategy := by
  unfold Session.take
  split
  · exact renewed
  · exact accept stores session moment

theorem foldl_take (stores : strategy.StoresInStroke) (renewed : session.IsRenewed strategy)
    (moments : List (Moment α)) :
    (moments.foldl (Session.take strategy) session).IsRenewed strategy := by
  induction moments generalizing session with
  | nil => exact renewed
  | cons moment rest ih => exact ih (renewed.take stores moment)

theorem observe (stores : strategy.StoresInStroke) (renewed : session.IsRenewed strategy)
    (event : MotionEvent α) : (session.observe strategy event).1.IsRenewed strategy := by
  unfold Session.observe
  split
  · exact .inl rfl
  · cases event.trackOf session.pointer with
    | none => exact renewed
    | some moments => exact renewed.foldl_take stores moments

theorem record (stores : strategy.StoresInStroke) (renewed : session.IsRenewed strategy)
    (event : MotionEvent α) : (session.record strategy event).1.IsRenewed strategy := by
  rw [record_eq_observe]
  refine observe stores ?_ event
  cases Command.pointer? (.observe event) with
  | none => exact renewed
  | some pointer => exact .inl rfl

/-- A forecast does not read the point that its walk renews. -/
theorem forecast (renewed : session.IsRenewed strategy) :
    session.forecast strategy =
      strategy.walk session.memory none session.rate.milliseconds (session.steps strategy) := by
  rcases renewed with nothing | renews
  · unfold Session.forecast
    rw [nothing]
  · exact renews _ _ _

/-- **One prediction** stores no point that the next one would not renew. -/
theorem predict (stores : strategy.StoresInStroke) (renewed : session.IsRenewed strategy) :
    (session.predict strategy).1.IsRenewed strategy := by
  unfold Session.predict
  split
  · rcases stores.stays session.memory with renews | stays
    · exact .inr renews
    · refine renewed.imp_left fun nothing => ?_
      show (strategy.walk session.memory session.furthest _ _).furthest = none
      rw [nothing]
      exact stays _ _
  · exact renewed

theorem predictPadded (stores : strategy.StoresInStroke) (renewed : session.IsRenewed strategy) :
    (session.predictPadded strategy).1.IsRenewed strategy := renewed.predict stores

/-- **One command**, however events are taken in and predictions made. -/
theorem answer {observed : MotionEvent α → Session α M × Bool}
    {predicted : Session α M × Option (Prediction α)} (renewed : session.IsRenewed strategy)
    (observe : ∀ event, (observed event).1.IsRenewed strategy)
    (predict : predicted.1.IsRenewed strategy) (command : Command α) :
    (session.answer strategy observed predicted command).1.IsRenewed strategy := by
  cases command with
  | setTarget milliseconds => exact renewed
  | setRate milliseconds =>
    unfold Session.answer setRate
    by_cases refused : milliseconds ≤ 0
    · simp only [if_pos refused]
      exact renewed
    · simp only [if_neg refused]
      exact renewed
  | beginStroke pointer => exact .inl rfl
  | observe event => exact observe event
  | predict => exact predict
  | pad prediction => exact renewed

theorem serve (stores : strategy.StoresInStroke) (renewed : session.IsRenewed strategy)
    (command : Command α) : (session.serve strategy command).1.IsRenewed strategy :=
  renewed.answer (renewed.record stores) (renewed.predictPadded stores) command

theorem configured {settings : PredictorSettings α}
    (built : Predictor.configure settings strategy = .ok session) : session.IsRenewed strategy := by
  rcases Predictor.configure_eq_ok built with ⟨_, rfl⟩ | ⟨_, _, _, rfl⟩ <;> exact .inl rfl

end IsRenewed

variable {tuning : LinearTuning α} {session : Session α (Motion α)}

/-- **Without a sample, an extrapolation stores nothing.** -/
theorem furthest_eq_none (renewed : session.IsRenewed (linear tuning))
    (empty : session.memory.history = []) : session.furthest = none :=
  renewed.resolve_right fun renews => (linear_renews_iff tuning _).mp renews empty

/-- The forecast of an extrapolation walks on from the sample accepted last. -/
theorem forecast_of_last {last : Moment α} (known : session.last (linear tuning) = some last) :
    session.forecast (linear tuning) =
      { samples := session.memory.walk tuning last session.rate.milliseconds
          (session.steps (linear tuning))
        furthest := (session.memory.walk tuning last session.rate.milliseconds
          (session.steps (linear tuning))).getLast? } :=
  linear_walk_of_some tuning known _ _ _

/-- Without a sample it is empty, and so is what is stored. -/
theorem forecast_of_no_last (renewed : session.IsRenewed (linear tuning))
    (unknown : session.last (linear tuning) = none) :
    session.forecast (linear tuning) = { samples := [], furthest := none } := by
  rw [renewed.forecast]
  exact linear_walk_of_none tuning unknown _ _ _

end Session

/-! ### Predictors -/

/-- Holds of a predictor that stores a point only where the next walk renews it. -/
def Predictor.IsRenewed : Predictor α → Prop
  | .kalman noise session => session.IsRenewed (PointerForecast.kalman noise)
  | .linear tuning session => session.IsRenewed (PointerForecast.linear tuning)

namespace Predictor.IsRenewed

variable {predictor : Predictor α}

theorem serve (renewed : predictor.IsRenewed) (command : Command α) :
    (predictor.serve command).1.IsRenewed := by
  cases predictor with
  | kalman noise session => exact Session.IsRenewed.serve (kalman_storesInStroke noise) renewed command
  | linear tuning session =>
    exact Session.IsRenewed.serve (linear_storesInStroke tuning) renewed command

/-- **Any run.** -/
theorem stateAfter (renewed : predictor.IsRenewed) (commands : List (Command α)) :
    (stateAfter Predictor.serve predictor commands).IsRenewed := by
  induction commands generalizing predictor with
  | nil => exact renewed
  | cons command rest ih => exact ih (renewed.serve command)

theorem ofSettings {settings : PredictorSettings α}
    (built : Predictor.ofSettings settings = .ok predictor) : predictor.IsRenewed := by
  rcases ofSettings_eq_ok built with ⟨_, session, configured, rfl⟩ | ⟨_, session, configured, rfl⟩
  · exact Session.IsRenewed.configured configured
  · exact Session.IsRenewed.configured configured

end Predictor.IsRenewed

end PointerForecast
