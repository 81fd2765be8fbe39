/-
**Values that are not finite in an estimate.**

A coordinate can be infinite. The filters multiply every state with every entry of their matrices,
zeros included, and zero times infinity is not a number. So one sample after an infinite coordinate
nothing on its channel is a number any more, and no later sample of the stroke changes that.

Whether a session predicts does not depend on what it estimates, but on its rate and on how many
samples it has accepted. A speed that is not a number counts as none: such a session predicts, and
its prediction holds no sample.

* `Channel.isFinite_follow`, `Channel.isNaN_follow`: **one measurement**.
* `Channel.isNaN_track`: **the measurements of a stroke**; `Estimator.isNaN_foldl_absorb`: its estimate.
* `Session.steps_of_isNaN`: no step is walked.
* `Predictor.ownPrediction_of_infinite`: **any point of a replay.**
-/

import PointerForecast.Proofs.Double.Order
import PointerForecast.Proofs.Readiness
import PointerForecast.Proofs.TraceNumbers

namespace PointerForecast

open Double

/-! ### Sums and products -/

section Sums

variable {α : Type} [Scalar α] {P : α → Prop} (passes : ∀ x y : α, P x ∨ P y → P (x + y))

include passes

theorem Scalar.foldl_add_of_mem {terms : List α} {start : α}
    (holds : P start ∨ ∃ term ∈ terms, P term) : P (terms.foldl (· + ·) start) := by
  induction terms generalizing start with
  | nil =>
    rcases holds with first | ⟨_, member, _⟩
    · exact first
    · cases member
  | cons next rest ih =>
    refine ih ?_
    rcases holds with first | ⟨term, member, later⟩
    · exact Or.inl (passes _ _ (Or.inl first))
    · rcases List.mem_cons.mp member with rfl | member
      · exact Or.inl (passes _ _ (Or.inr later))
      · exact Or.inr ⟨term, member, later⟩

/-- A property that either summand passes on is passed on by every term of a sum. -/
theorem Scalar.sum_of_mem {terms : List α} {term : α} (member : term ∈ terms) (holds : P term) :
    P (Scalar.sum terms) := by
  cases terms with
  | nil => cases member
  | cons first rest =>
    refine Scalar.foldl_add_of_mem passes ?_
    rcases List.mem_cons.mp member with rfl | later
    · exact Or.inl holds
    · exact Or.inr ⟨term, later, holds⟩

/-- The same of an entry of a product. -/
theorem Mat.mul_apply_of_term {k m n : Nat} (A : Mat α m k) (B : Mat α k n) {i : Fin m} {j : Fin n}
    (l : Fin k) (holds : P (A i l * B l j)) : P ((A * B) i j) := by
  rw [Mat.mul_apply]
  exact Scalar.sum_of_mem passes (List.mem_ofFn.mpr ⟨l, rfl⟩) holds

end Sums

/-! ### One measurement -/

namespace Channel

variable {n : Nat} (model : ChannelModel Float n) {channel : Channel Float n} {measurement : Float}

/-- **The model spreads what is not finite to all states.** -/
theorem isFinite_propagate {l : Fin n} (special : (channel.component l).isFinite = false)
    (i : Fin n) : ((channel.propagate model).component i).isFinite = false := by
  refine Mat.mul_apply_of_term (P := fun x : Float => x.isFinite = false)
    (fun _ _ => isFinite_add) model.transition channel.state l ?_
  exact isFinite_mul (Or.inr special)

/-- A state that is not finite is observed although it counts for nothing. -/
theorem isNaN_observed {l : Fin n} (hidden : l.val ≠ 0)
    (special : (channel.component l).isFinite = false) : channel.observed.isNaN = true := by
  refine Mat.mul_apply_of_term (P := fun x : Float => x.isNaN = true)
    (fun _ _ => isNaN_add) observation channel.state l ?_
  have blind : (observation : Mat Float 1 n) 0 l = 0 := by
    rw [observation, Mat.ofFn_apply, if_neg hidden]
  rw [blind]
  exact isNaN_zero_mul special

theorem component_correct (i : Fin n) : (channel.correct model measurement).component i =
    channel.component i + channel.gain model i 0 * (measurement - channel.observed) := by
  unfold correct component
  rw [Mat.add_apply, Mat.scale_apply]

theorem isNaN_correct (unknown : channel.observed.isNaN = true) (i : Fin n) :
    ((channel.correct model measurement).component i).isNaN = true := by
  rw [component_correct]
  exact isNaN_add (Or.inr (isNaN_mul (Or.inr (isNaN_sub (Or.inr unknown)))))

/-- **After an infinite measurement no state is finite.** -/
theorem isFinite_follow (infinite : measurement.isFinite = false) (i : Fin n) :
    ((channel.follow model measurement).component i).isFinite = false := by
  unfold follow
  rw [component_correct]
  exact isFinite_add (Or.inr (isFinite_mul (Or.inr (isFinite_sub (Or.inl infinite)))))

/-- **After a state that is not finite, none is a number**, whatever is measured. -/
theorem isNaN_follow (many : 1 < n) {l : Fin n} (special : (channel.component l).isFinite = false)
    (measurement : Float) (i : Fin n) :
    ((channel.follow model measurement).component i).isNaN = true := by
  have hidden : (⟨1, many⟩ : Fin n).val ≠ 0 := Nat.one_ne_zero
  exact isNaN_correct model (isNaN_observed hidden (isFinite_propagate model special _)) i

theorem isNaN_foldl_follow (many : 1 < n) {l : Fin n}
    (special : (channel.component l).isFinite = false) {measurements : List Float}
    (more : measurements ≠ []) (i : Fin n) :
    ((measurements.foldl (follow model) channel).component i).isNaN = true := by
  induction measurements generalizing channel with
  | nil => exact absurd rfl more
  | cons measurement rest ih =>
    have next := isNaN_follow model many special measurement
    by_cases last : rest = []
    · rw [last]
      exact next i
    · exact ih (isFinite_of_isNaN (next l)) last

/-! ### The measurements of a stroke -/

theorem track_append {α : Type} [Scalar α] {n : Nat} (model : ChannelModel α n) (before : List α)
    (measurement : α) (after : List α) : track model (before ++ measurement :: after) =
      after.foldl (follow model) (track model (before ++ [measurement])) := by
  cases before with
  | nil => rfl
  | cons first rest =>
    show (rest ++ measurement :: after).foldl _ _ = after.foldl _ ((rest ++ [measurement]).foldl _ _)
    rw [← List.foldl_append, List.append_assoc, List.singleton_append]

/-- An infinite measurement leaves a state that is not finite. -/
theorem exists_isFinite_track (many : 1 < n) (before : List Float)
    (infinite : measurement.isFinite = false) :
    ∃ l, ((track model (before ++ [measurement])).component l).isFinite = false := by
  refine ⟨⟨0, Nat.zero_lt_of_lt many⟩, ?_⟩
  cases before with
  | nil =>
    show ((blank.seed measurement).component _).isFinite = false
    rw [component, seed, Mat.ofFn_apply, if_pos rfl]
    exact infinite
  | cons first rest =>
    show (((rest ++ [measurement]).foldl (follow model) (blank.seed first)).component _).isFinite = _
    rw [List.foldl_append]
    exact isFinite_follow model infinite _

/-- **Once a measurement was infinite, no state is a number from the next one on.** -/
theorem isNaN_track (many : 1 < n) {before after : List Float} (more : after ≠ [])
    (infinite : measurement.isFinite = false) (i : Fin n) :
    ((track model (before ++ measurement :: after)).component i).isNaN = true := by
  obtain ⟨l, special⟩ := exists_isFinite_track model many before infinite
  rw [track_append]
  exact isNaN_foldl_follow model many special more i

end Channel

/-- **Once a coordinate was infinite, nothing on its channel is a number** from the next sample on. -/
theorem Estimator.isNaN_foldl_absorb (noise : Noise Float) (earlier : List (Moment Float))
    (moment : Moment Float) {later : List (Moment Float)} (more : later ≠ []) :
    let estimator :=
      (earlier ++ moment :: later).foldl (kalman noise).absorb (kalman noise).blank
    (moment.coords.x.isFinite = false → ∀ i, (estimator.x.component i).isNaN = true) ∧
      (moment.coords.y.isFinite = false → ∀ i, (estimator.y.component i).isNaN = true) ∧
      (moment.coords.pressure.isFinite = false →
        ∀ i, (estimator.pressure.component i).isNaN = true) := by
  intro estimator
  have estimate : estimator.toEstimator = _ :=
    (Tracker.toEstimator_foldl_absorb noise .blank (earlier ++ moment :: later)).trans
      (Estimator.foldl_absorb noise ((earlier ++ moment :: later).map Moment.coords))
  have followed (coordinate : Coords Float → Float) :
      (later.map Moment.coords).map coordinate ≠ [] := by
    rwa [List.map_map, Ne, List.map_eq_nil_iff]
  rw [estimate]
  simp only [List.map_append, List.map_cons]
  refine ⟨fun infinite => ?_, fun infinite => ?_, fun infinite => ?_⟩
  · exact Channel.isNaN_track _ (by decide) (followed _) infinite
  · exact Channel.isNaN_track _ (by decide) (followed _) infinite
  · exact Channel.isNaN_track _ (by decide) (followed _) infinite

/-! ### No step is walked -/

theorem normalize_of_isNaN {value : Float} (special : value.isNaN = true) (low high : Float) :
    normalize value low high = 0 := by
  have scaled : ((value - low) / (high - low)).isNaN = true := isNaN_div (isNaN_sub (Or.inl special))
  unfold normalize
  have lifted : Scalar.max ((value - low) / (high - low)) (0 : Float) = 0 :=
    if_pos (Bool.or_eq_true_iff.mpr (Or.inl scaled))
  rw [lifted]
  rfl

/-- There is no confidence in a speed and a jank that are not numbers. -/
theorem confidence_of_isNaN {speed jank : Float} (unknown : speed.isNaN = true)
    (erratic : jank.isNaN = true) : confidence speed jank = 0 := by
  unfold confidence
  rw [normalize_of_isNaN unknown, normalize_of_isNaN erratic]
  rfl

/-- Nothing times zero needs a sample. -/
theorem ceilWord_mul_zero (value : Float) : ceilWord (value * 0) = 0 := by
  rw [ceilWord_eq, value_mul_of_zero not_isNaN_zero value_zero, Nat.ceil_zero, Nat.zero_min]

theorem Planar.isNaN_norm {v : Planar Float} (special : v.x.isNaN = true ∨ v.y.isNaN = true) :
    v.norm.isNaN = true := by
  refine isNaN_sqrt (isNaN_add ?_)
  exact special.imp (fun x => isNaN_mul (Or.inl x)) (fun y => isNaN_mul (Or.inl y))

namespace Session

variable {noise : Noise Float} {session : Session Float (Tracker Float)}

/-- **No step is walked** where neither speed nor jank is a number. -/
theorem steps_of_isNaN (unknown : session.memory.kinematics.velocity.norm.isNaN = true)
    (erratic : session.memory.kinematics.jank.norm.isNaN = true) :
    session.steps (kalman noise) = 0 := by
  have trust : session.memory.confidence session.rate.milliseconds = 0 :=
    confidence_of_isNaN (isNaN_div unknown) erratic
  have still : (kalman noise).horizon session.memory session.targetTime
      session.rate.milliseconds = 0 := by
    show horizon _ _ (session.memory.confidence session.rate.milliseconds) = 0
    rw [trust]
    exact ceilWord_mul_zero _
  unfold steps
  rw [still]
  cases session.expected? with
  | none => rfl
  | some expected => exact Nat.zero_min expected

theorem samples_predict_of_still (still : session.steps (kalman noise) = 0)
    {own : Prediction Float} (answered : (session.predict (kalman noise)).2 = some own) :
    own.samples = [] := by
  unfold predict at answered
  split at answered
  · obtain rfl := Option.some.inj answered
    exact samples_forecast_of_still (kalman_keepsHorizon noise) still
  · cases answered

end Session

/-! ### Any point of a replay -/

/-- Holds of an estimate that consists of finite numbers. -/
def Kinematics.isFinite (state : Kinematics Float) : Bool :=
  [state.position.x, state.position.y, state.velocity.x, state.velocity.y, state.acceleration.x,
    state.acceleration.y, state.jank.x, state.jank.y, state.pressure, state.pressureChange].all
      Float.isFinite

namespace Predictor

/-- **Readiness and infinite coordinates at any point of a replay.** A filter predicts if and only if
its rate can be used and was given or the stroke has four samples, whatever it estimates. But as soon
as an infinite coordinate was followed by another sample, nothing that is estimated from it is a
number, and if it was one of the position, then what the filter predicts is no sample at all. -/
theorem ownPrediction_of_infinite {settings : PredictorSettings Float} {start : Predictor Float}
    (built : ofSettings settings = .ok start) (chosen : settings.strategy = .kalman)
    (before : List (MotionEvent Float)) (event : MotionEvent Float) :
    let recorded := ((start.run before).1.record event).1
    let stroke := (Chronicle.ofRun ((before ++ [event]).map .observe)).current
    ∃ session, recorded = .kalman settings.noise session ∧
      (recorded.ownPrediction.isSome ↔
        (settings.rate?.isSome ∨ 4 ≤ stroke.length) ∧ session.rate.isUsable = true) ∧
      ∀ earlier moment later, stroke = earlier ++ moment :: later → later ≠ [] →
        let state := session.memory.kinematics
        (moment.coords.x.isFinite = false → state.position.x.isNaN = true ∧
          state.velocity.x.isNaN = true ∧ state.acceleration.x.isNaN = true ∧
          state.jank.x.isNaN = true) ∧
        (moment.coords.y.isFinite = false → state.position.y.isNaN = true ∧
          state.velocity.y.isNaN = true ∧ state.acceleration.y.isNaN = true ∧
          state.jank.y.isNaN = true) ∧
        (moment.coords.pressure.isFinite = false →
          state.pressure.isNaN = true ∧ state.pressureChange.isNaN = true) ∧
        (moment.coords.x.isFinite = false ∨ moment.coords.y.isFinite = false →
          ∀ own, recorded.ownPrediction = some own → own.samples = []) := by
  intro recorded stroke
  rcases ofSettings_eq_ok built with ⟨_, fresh, configured, rfl⟩ | ⟨other, _⟩
  · have point : recorded = .kalman settings.noise _ :=
      (record_run _ before event).trans (stateAfter_kalman settings.noise fresh _)
    have follows := Session.Follows.replayed configured (.kalman settings.noise fresh) before event
    have given : settings.initialRate.given?.isSome = settings.rate?.isSome := by
      unfold PredictorSettings.initialRate
      cases settings.rate? <;> rfl
    refine ⟨_, point, ?_, ?_⟩
    · rw [point, ← given]
      exact follows.isSome_predict (kalman_isReady_iff settings.noise)
    · intro earlier moment later split more state
      obtain ⟨x, y, pressure⟩ := Estimator.isNaN_foldl_absorb settings.noise earlier moment more
      rw [← split, ← follows.memory] at x y pressure
      refine ⟨fun infinite => ?_, fun infinite => ?_, fun infinite => ?_, fun infinite => ?_⟩
      · exact ⟨x infinite 0, x infinite 1, x infinite 2, x infinite 3⟩
      · exact ⟨y infinite 0, y infinite 1, y infinite 2, y infinite 3⟩
      · exact ⟨pressure infinite 0, pressure infinite 1⟩
      · have speed : state.velocity.norm.isNaN = true :=
          Planar.isNaN_norm (infinite.imp (fun first => x first 1) fun second => y second 1)
        have jank : state.jank.norm.isNaN = true :=
          Planar.isNaN_norm (infinite.imp (fun first => x first 3) fun second => y second 3)
        rw [point]
        intro own
        exact Session.samples_predict_of_still (Session.steps_of_isNaN speed jank)
  · rw [chosen] at other
    cases other

/-! ### A trace of an infinite position -/

/-- The text of a stroke that begins with a position beyond single precision. -/
def farText : String :=
  "[[\"down\",[0],[[0,[[1e39,0]]],[8,[[0,0]]],[16,[[1,0]]],[24,[[2,0]]]]]]"

/-- The only event of that text. -/
def farContact : MotionEvent Float :=
  ⟨.down, [0],
    [⟨0, [⟨1 / 0, 0, 1⟩]⟩, ⟨8, [⟨0, 0, 1⟩]⟩, ⟨16, [⟨1, 0, 1⟩]⟩, ⟨24, [⟨2, 0, 1⟩]⟩]⟩

theorem loadTrace_farText : loadTrace "far.json" (.ok farText.toUTF8) = .ok [farContact] :=
  eq_ok_of_toOption (by decide +kernel)

/-- After that stroke, the usual predictor predicts, but no sample: the horizontal speed is not a
number. A replay counts a prediction, and nothing that was not ready. -/
theorem ownPrediction_of_infinite_farContact :
    ∃ start session own, ofSettings (.usual : PredictorSettings Float) = .ok start ∧
      (start.record farContact).1 = .kalman .ink session ∧
      (start.record farContact).1.ownPrediction = some own ∧ own.samples = [] ∧
      session.memory.kinematics.velocity.x.isNaN = true ∧
      (start.replay [farContact]).summary = ⟨1, 1, 0, 1, 0, 0⟩ := by
  obtain ⟨start, built, answers, counts⟩ :
      ∃ start, ofSettings (.usual : PredictorSettings Float) = .ok start ∧
        (start.record farContact).1.ownPrediction.isSome = true ∧
        (start.replay [farContact]).summary = ⟨1, 1, 0, 1, 0, 0⟩ :=
    ⟨_, rfl, by decide +kernel, by decide +kernel⟩
  obtain ⟨own, answered⟩ := Option.isSome_iff_exists.mp answers
  obtain ⟨session, point, _, lost⟩ := ownPrediction_of_infinite built rfl [] farContact
  have stroke : (Chronicle.ofRun ([farContact].map .observe)).current =
      [] ++ ⟨0, ⟨1 / 0, 0, 1⟩⟩ :: [⟨8, ⟨0, 0, 1⟩⟩, ⟨16, ⟨1, 0, 1⟩⟩, ⟨24, ⟨2, 0, 1⟩⟩] := by
    decide +kernel
  obtain ⟨x, _, _, empty⟩ := lost _ _ _ stroke (List.cons_ne_nil _ _)
  exact ⟨start, session, own, built, point, answered, empty (Or.inl rfl) own answered, (x rfl).2.1,
    counts⟩

/-- **A predictor that predicts need not have a finite estimate.** -/
theorem estimate_not_finite :
    ¬ ∀ (settings : Settings Float) (path : String) (content : FileContent)
      (events : List (MotionEvent Float)) (start : Predictor Float), settings.fault? = none →
      settings.predictor.strategy = .kalman → loadTrace path content = .ok events →
      ofSettings settings.predictor = .ok start →
      ∀ before event after, events = before ++ event :: after → ∀ noise session,
        ((start.run before).1.record event).1 = .kalman noise session →
          (session.predict (PointerForecast.kalman noise)).2.isSome = true →
            session.memory.kinematics.isFinite = true := by
  intro claim
  have finite := claim .usual _ _ _ _ rfl rfl loadTrace_farText rfl [] farContact [] rfl _ _ rfl
    (by decide +kernel)
  revert finite
  decide +kernel

end Predictor

end PointerForecast
