/-
**The estimate of a sum is the sum of the estimates.**

In exact arithmetic, a filter weighs its measurements by gains that do not depend on them:
covariances and gains are the same for any measurements of the same number. So what a filter tracks
is linear in its measurements, from the first one on, which only places the observed state. A
constant is tracked without error, and one that is added to all measurements moves the observed
state alone.

* `Channel.Blends`: three filters with the same gains, the last of which is blended of the others;
  `Blends.follow`: **one sample**; `Blends.track`: any number of them.
* `Channel.SharesGains`, `Channel.sharesGains_track`: the same gains, by a division that is defined.
* `Channel.track_raise`, `Channel.component_track_replicate`: a constant added, and one alone.
* `Estimator.superposition`: **the filters of a pointer.**
-/

import PointerForecast.Proofs.Exact.Translation
import PointerForecast.Proofs.Readiness

namespace PointerForecast

/-! ### Blended filters -/

namespace Channel

variable {n : ℕ} {model : ChannelModel ℝ (n + 1)} {a b : ℝ}
  {first second third : Channel ℝ (n + 1)}

theorem component_seed (measurement : ℝ) (i : Fin (n + 1)) :
    ((blank : Channel ℝ (n + 1)).seed measurement).component i =
      if i = 0 then measurement else 0 := by
  rw [component, seed, Mat.ofFn_apply]
  by_cases observed : i = 0 <;> simp [observed, Fin.val_eq_zero_iff, blank]

theorem component_propagate (channel : Channel ℝ (n + 1)) (i : Fin (n + 1)) :
    (channel.propagate model).component i = ∑ l, model.transition i l * channel.component l := by
  rw [component, propagate, Mat.mul_apply, Scalar.sum_ofFn]
  rfl

theorem component_correct_eq (channel : Channel ℝ (n + 1)) (measurement : ℝ) (i : Fin (n + 1)) :
    (channel.correct model measurement).component i = channel.component i +
      channel.gain model i 0 * (measurement - channel.component 0) := by
  rw [component, correct_state, observed_eq]
  rfl

/-- A gain is made of the covariance. -/
theorem gain_congr (model : ChannelModel ℝ (n + 1))
    (same : second.covariance = first.covariance) : second.gain model = first.gain model := by
  unfold gain innovationVariance
  rw [same]

theorem covariance_propagate_congr (same : second.covariance = first.covariance) :
    (second.propagate model).covariance = (first.propagate model).covariance := by
  unfold propagate
  rw [same]

/-- The first two filters have the same covariance, and the third one is blended of them. -/
structure Blends (a b : ℝ) (first second third : Channel ℝ (n + 1)) : Prop where
  /-- The first two have the same covariance. -/
  same : second.covariance = first.covariance
  /-- So has the third one. -/
  covariance : third.covariance = first.covariance
  /-- The states of the third one are blended of those of the others. -/
  component : ∀ i, third.component i = first.component i * a + second.component i * b

namespace Blends

theorem blank : Blends a b (blank : Channel ℝ (n + 1)) Channel.blank Channel.blank where
  same := rfl
  covariance := rfl
  component i := by
    have zero : (Channel.blank : Channel ℝ (n + 1)).component i = 0 := Mat.zero_apply i 0
    rw [zero, zero_mul, zero_mul, add_zero]

theorem seed (z w : ℝ) : Blends a b ((Channel.blank : Channel ℝ (n + 1)).seed z)
    (Channel.blank.seed w) (Channel.blank.seed (z * a + w * b)) where
  same := rfl
  covariance := rfl
  component i := by
    rw [component_seed, component_seed, component_seed]
    split <;> ring

theorem propagate (blends : Blends a b first second third) :
    Blends a b (first.propagate model) (second.propagate model) (third.propagate model) where
  same := covariance_propagate_congr blends.same
  covariance := covariance_propagate_congr blends.covariance
  component i := by
    simp only [component_propagate, blends.component, Finset.sum_mul, ← Finset.sum_add_distrib]
    refine Finset.sum_congr rfl fun l _ => ?_
    ring

theorem correct (blends : Blends a b first second third) (z w : ℝ) :
    Blends a b (first.correct model z) (second.correct model w)
      (third.correct model (z * a + w * b)) := by
  have same := gain_congr model blends.same
  have gain := gain_congr model blends.covariance
  constructor
  · unfold Channel.correct
    rw [same, blends.same]
  · unfold Channel.correct
    rw [gain, blends.covariance]
  · intro i
    simp only [component_correct_eq, same, gain, blends.component]
    ring

/-- **One sample** of the three filters. -/
theorem follow (blends : Blends a b first second third) (z w : ℝ) :
    Blends a b (first.follow model z) (second.follow model w)
      (third.follow model (z * a + w * b)) :=
  blends.propagate.correct z w

theorem foldl_follow (blends : Blends a b first second third) {zs ws : List ℝ}
    (same : zs.length = ws.length) :
    Blends a b (zs.foldl (Channel.follow model) first) (ws.foldl (Channel.follow model) second)
      ((List.zipWith (fun z w => z * a + w * b) zs ws).foldl (Channel.follow model) third) := by
  induction zs generalizing ws first second third with
  | nil =>
    obtain rfl := List.length_eq_zero_iff.mp same.symm
    exact blends
  | cons z zs ih =>
    obtain ⟨w, ws, rfl⟩ := List.exists_cons_of_length_eq_add_one same.symm
    exact ih (blends.follow z w) (Nat.succ.inj same)

/-- **What a filter tracks is linear in the measurements.** -/
theorem track (model : ChannelModel ℝ (n + 1)) {zs ws : List ℝ} (same : zs.length = ws.length) :
    Blends a b (Channel.track model zs) (Channel.track model ws)
      (Channel.track model (List.zipWith (fun z w => z * a + w * b) zs ws)) := by
  cases zs with
  | nil =>
    obtain rfl := List.length_eq_zero_iff.mp same.symm
    exact blank
  | cons z zs =>
    obtain ⟨w, ws, rfl⟩ := List.exists_cons_of_length_eq_add_one same.symm
    exact (seed z w).foldl_follow (Nat.succ.inj same)

end Blends

/-! ### Gains -/

/-- Two filters of a model are known alike, and follow the next measurement by the same part of it.
That part is a quotient by what is at least the noise of a measurement. -/
structure SharesGains (model : ChannelModel ℝ (n + 1)) (first second : Channel ℝ (n + 1)) :
    Prop where
  /-- They are known alike. -/
  covariance : second.covariance = first.covariance
  /-- They follow the next measurement by the same part of it. -/
  gain : (second.propagate model).gain model = (first.propagate model).gain model
  /-- The quotient is defined. -/
  innovation : model.measurementNoise ≤ (first.propagate model).innovationVariance model

/-- To track is to seed and then to follow. -/
theorem track_eq_reached (model : ChannelModel ℝ (n + 1)) (zs : List ℝ) :
    ∃ moves, track model zs = reached model moves := by
  cases zs with
  | nil => exact ⟨[], rfl⟩
  | cons z zs =>
    refine ⟨.seed z :: zs.map .follow, ?_⟩
    show zs.foldl (follow model) (blank.seed z) = (zs.map Move.follow).foldl (after model) _
    rw [List.foldl_map]
    rfl

/-- **The gains do not depend on the measurements**, only on how many there were. -/
theorem sharesGains_track (regular : model.Regular) {zs ws : List ℝ}
    (same : zs.length = ws.length) :
    SharesGains model (track model zs) (track model ws) := by
  have alike := (Blends.track model (a := 0) (b := 0) same).same
  obtain ⟨moves, reaches⟩ := track_eq_reached model zs
  have corrects := (staysDefinite regular moves).2.2 0
  rw [← reaches] at corrects
  exact ⟨alike, gain_congr model (covariance_propagate_congr alike), corrects.innovation.2⟩

/-! ### Constants -/

theorem foldl_follow_raise (keeps : model.KeepsPlace) (channel : Channel ℝ (n + 1)) (zs : List ℝ)
    (offset : ℝ) : (zs.map (· + offset)).foldl (follow model) (channel.raise offset) =
      (zs.foldl (follow model) channel).raise offset := by
  induction zs generalizing channel with
  | nil => rfl
  | cons z zs ih =>
    rw [List.map_cons, List.foldl_cons, follow_raise keeps]
    exact ih _

/-- **A constant added to all measurements** moves the observed state alone. -/
theorem track_raise (keeps : model.KeepsPlace) {zs : List ℝ} (some : zs ≠ []) (offset : ℝ) :
    track model (zs.map (· + offset)) = (track model zs).raise offset := by
  obtain ⟨z, zs, rfl⟩ := List.exists_cons_of_ne_nil some
  show (zs.map (· + offset)).foldl (follow model) (blank.seed (z + offset)) = _
  rw [seed_raise]
  exact foldl_follow_raise keeps _ zs offset

/-- **A constant** is tracked without error. -/
theorem component_track_replicate (keeps : model.KeepsPlace) {count : ℕ} (positive : 0 < count)
    (c : ℝ) (i : Fin (n + 1)) :
    (track model (List.replicate count c)).component i = if i = 0 then c else 0 := by
  -- Zeros are blended of themselves with the scalars zero, and a constant is zeros raised by it.
  have still : (track model (List.replicate count 0)).component i = 0 := by
    have blends := Blends.track model (a := 0) (b := 0)
      (rfl : (List.replicate count (0 : ℝ)).length = (List.replicate count (0 : ℝ)).length)
    have zero := blends.component i
    simpa using zero
  have raised : List.replicate count c = (List.replicate count 0).map (· + c) := by
    rw [List.map_replicate, zero_add]
  have some : List.replicate count (0 : ℝ) ≠ [] :=
    mt (List.replicate_eq_nil_iff _).mp (Nat.ne_of_gt positive)
  rw [raised, track_raise keeps some, component_raise, still, zero_add]

end Channel

/-! ### The filters of a pointer -/

theorem Noise.keepsPlace_pressureModel (noise : Noise ℝ) : (pressureModel noise).KeepsPlace := by
  intro i
  fin_cases i <;> rfl

namespace Coords

/-- Two samples, each scaled, added up. -/
noncomputable def blend (a b : ℝ) (first second : Coords ℝ) : Coords ℝ :=
  ⟨first.x * a + second.x * b, first.y * a + second.y * b,
    first.pressure * a + second.pressure * b⟩

/-- A sample with another one added. -/
noncomputable def plus (sample offset : Coords ℝ) : Coords ℝ :=
  ⟨sample.x + offset.x, sample.y + offset.y, sample.pressure + offset.pressure⟩

/-- The position of a sample. -/
def position {α : Type} (sample : Coords α) : Planar α := ⟨sample.x, sample.y⟩

end Coords

/-- Two kinematic states, each scaled, added up. -/
noncomputable def Kinematics.blend (a b : ℝ) (first second : Kinematics ℝ) : Kinematics ℝ where
  position := first.position * a + second.position * b
  velocity := first.velocity * a + second.velocity * b
  acceleration := first.acceleration * a + second.acceleration * b
  jank := first.jank * a + second.jank * b
  pressure := first.pressure * a + second.pressure * b
  pressureChange := first.pressureChange * a + second.pressureChange * b

namespace Estimator

/-- The estimator after some samples. -/
def ofSamples {α : Type} [Scalar α] (noise : Noise α) (samples : List (Coords α)) : Estimator α :=
  samples.foldl (absorb noise) blank

/-- Each filter tracks its own measurements. -/
theorem ofSamples_eq {α : Type} [Scalar α] (noise : Noise α) (samples : List (Coords α)) :
    ofSamples noise samples =
      { x := .track (axisModel noise) (samples.map (·.x))
        y := .track (axisModel noise) (samples.map (·.y))
        pressure := .track (pressureModel noise) (samples.map (·.pressure))
        count := samples.length } :=
  foldl_absorb noise samples

/-- The filters of two pointers share their gains. -/
structure SharesGains (noise : Noise ℝ) (first second : Estimator ℝ) : Prop where
  /-- Horizontally. -/
  x : first.x.SharesGains (axisModel noise) second.x
  /-- Vertically. -/
  y : first.y.SharesGains (axisModel noise) second.y
  /-- In the pressure. -/
  pressure : first.pressure.SharesGains (pressureModel noise) second.pressure

variable {noise : Noise ℝ} {first second : List (Coords ℝ)}

theorem sharesGains_ofSamples (nonneg : 0 ≤ noise.process) (noisy : 0 < noise.measurement)
    (same : first.length = second.length) :
    (ofSamples noise first).SharesGains noise (ofSamples noise second) := by
  have lengths (coordinate : Coords ℝ → ℝ) :
      (first.map coordinate).length = (second.map coordinate).length := by
    rw [List.length_map, List.length_map, same]
  rw [ofSamples_eq, ofSamples_eq]
  exact
    { x := Channel.sharesGains_track (noise.regular_axisModel nonneg noisy) (lengths _)
      y := Channel.sharesGains_track (noise.regular_axisModel nonneg noisy) (lengths _)
      pressure := Channel.sharesGains_track (noise.regular_pressureModel nonneg noisy) (lengths _) }

theorem kinematics_blend (noise : Noise ℝ) (same : first.length = second.length) (a b : ℝ) :
    (ofSamples noise (List.zipWith (.blend a b) first second)).kinematics =
      .blend a b (ofSamples noise first).kinematics (ofSamples noise second).kinematics := by
  have blends {n : ℕ} (model : ChannelModel ℝ (n + 1)) (coordinate : Coords ℝ → ℝ)
      (respects : ∀ z w, coordinate (.blend a b z w) = coordinate z * a + coordinate w * b) :
      Channel.Blends a b (.track model (first.map coordinate))
        (.track model (second.map coordinate))
        (.track model ((List.zipWith (.blend a b) first second).map coordinate)) := by
    have lengths : (first.map coordinate).length = (second.map coordinate).length := by
      rw [List.length_map, List.length_map, same]
    have tracked := Channel.Blends.track model (a := a) (b := b) lengths
    rw [List.zipWith_map] at tracked
    rw [List.map_zipWith]
    simp only [respects]
    exact tracked
  have x := (blends (axisModel noise) (·.x) fun _ _ => rfl).component
  have y := (blends (axisModel noise) (·.y) fun _ _ => rfl).component
  have pressure := (blends (pressureModel noise) (·.pressure) fun _ _ => rfl).component
  rw [ofSamples_eq, ofSamples_eq, ofSamples_eq]
  simp only [kinematics, Kinematics.blend, x, y, pressure]
  rfl

theorem kinematics_plus (noise : Noise ℝ) (some : first ≠ []) (offset : Coords ℝ) :
    (ofSamples noise (first.map (·.plus offset))).kinematics =
      { (ofSamples noise first).kinematics with
        position := (ofSamples noise first).kinematics.position + offset.position
        pressure := (ofSamples noise first).kinematics.pressure + offset.pressure } := by
  have raised {n : ℕ} {model : ChannelModel ℝ (n + 1)} (keeps : model.KeepsPlace)
      (coordinate : Coords ℝ → ℝ)
      (respects : ∀ z, coordinate (z.plus offset) = coordinate z + coordinate offset)
      (i : Fin (n + 1)) :
      (Channel.track model ((first.map (·.plus offset)).map coordinate)).component i =
        (Channel.track model (first.map coordinate)).component i +
          if i = 0 then coordinate offset else 0 := by
    have apart : (first.map (·.plus offset)).map coordinate =
        (first.map coordinate).map (· + coordinate offset) := by
      rw [List.map_map, List.map_map]
      exact List.map_congr_left fun z _ => respects z
    rw [apart, Channel.track_raise keeps (mt List.map_eq_nil_iff.mp some), Channel.component_raise]
  have x := raised noise.keepsPlace_axisModel (·.x) fun _ => rfl
  have y := raised noise.keepsPlace_axisModel (·.y) fun _ => rfl
  have pressure := raised noise.keepsPlace_pressureModel (·.pressure) fun _ => rfl
  rw [ofSamples_eq, ofSamples_eq]
  simp only [kinematics, x, y, pressure, Fin.isValue, one_ne_zero, if_true, if_false, add_zero,
    (by decide : ¬(2 : Fin 4) = 0), (by decide : ¬(3 : Fin 4) = 0)]
  rfl

theorem kinematics_replicate (noise : Noise ℝ) {count : ℕ} (positive : 0 < count)
    (sample : Coords ℝ) :
    (ofSamples noise (List.replicate count sample)).kinematics =
      ⟨sample.position, 0, 0, 0, sample.pressure, 0⟩ := by
  rw [ofSamples_eq]
  have constant {n : ℕ} {model : ChannelModel ℝ (n + 1)} (keeps : model.KeepsPlace)
      (coordinate : Coords ℝ → ℝ) (i : Fin (n + 1)) :
      (Channel.track model ((List.replicate count sample).map coordinate)).component i =
        if i = 0 then coordinate sample else 0 := by
    rw [List.map_replicate]
    exact Channel.component_track_replicate keeps positive _ i
  have x := constant noise.keepsPlace_axisModel (·.x)
  have y := constant noise.keepsPlace_axisModel (·.y)
  have pressure := constant noise.keepsPlace_pressureModel (·.pressure)
  simp only [kinematics, x, y, pressure]
  rfl

/-- **The estimate of a sum is the sum of the estimates.** The filters of two pointers with equally
many samples share their gains after each sample. If the samples are scaled and added up, so are the
kinematic states. Each filter depends on its own measurements only. A constant added to all samples
is added to the position and the pressure, and leaves all rates of change as they are; and samples
that are all the same are estimated without error, at rest. -/
theorem superposition (nonneg : 0 ≤ noise.process) (noisy : 0 < noise.measurement)
    (same : first.length = second.length) (a b : ℝ) :
    let one := ofSamples noise first
    let other := ofSamples noise second
    (∀ count, (ofSamples noise (first.take count)).SharesGains noise
      (ofSamples noise (second.take count))) ∧
    (ofSamples noise (List.zipWith (.blend a b) first second)).kinematics =
      .blend a b one.kinematics other.kinematics ∧
    ((first.map (·.x) = second.map (·.x) → one.x = other.x) ∧
      (first.map (·.y) = second.map (·.y) → one.y = other.y) ∧
      (first.map (·.pressure) = second.map (·.pressure) → one.pressure = other.pressure)) ∧
    (first ≠ [] → ∀ offset : Coords ℝ, (ofSamples noise (first.map (·.plus offset))).kinematics =
      { one.kinematics with
        position := one.kinematics.position + offset.position
        pressure := one.kinematics.pressure + offset.pressure }) ∧
    ∀ (sample : Coords ℝ) (count : ℕ), 0 < count →
      (ofSamples noise (List.replicate count sample)).kinematics =
        ⟨sample.position, 0, 0, 0, sample.pressure, 0⟩ := by
  intro one other
  refine ⟨fun count => ?_, kinematics_blend noise same a b, ?_,
    fun some => kinematics_plus noise some,
    fun sample count positive => kinematics_replicate noise positive sample⟩
  · exact sharesGains_ofSamples nonneg noisy (by rw [List.length_take, List.length_take, same])
  · simp only [one, other, ofSamples_eq]
    exact ⟨congrArg _, congrArg _, congrArg _⟩

/-- Two strokes of two samples and their difference, a stroke moved, and one that rests. -/
theorem superposition_difference :
    let noise : Noise ℝ := ⟨0.01, 1⟩
    let first : List (Coords ℝ) := [⟨1, 2, 0.5⟩, ⟨4, 2, 0.75⟩]
    let second : List (Coords ℝ) := [⟨0, 2, 1⟩, ⟨3, 0, 1⟩]
    let rest : Coords ℝ := ⟨7, -3, 0.5⟩
    (ofSamples noise [⟨1, 0, -0.5⟩, ⟨1, 2, -0.25⟩]).kinematics =
        .blend 1 (-1) (ofSamples noise first).kinematics (ofSamples noise second).kinematics ∧
      (ofSamples noise (first.map (·.plus rest))).kinematics.velocity =
        (ofSamples noise first).kinematics.velocity ∧
      (ofSamples noise [rest, rest, rest]).kinematics = ⟨⟨7, -3⟩, 0, 0, 0, 0.5, 0⟩ := by
  intro noise first second rest
  have nonneg : 0 ≤ noise.process := by norm_num [noise]
  have noisy : 0 < noise.measurement := by norm_num [noise]
  have same : first.length = second.length := rfl
  obtain ⟨_, blended, _, moved, still⟩ := superposition nonneg noisy same 1 (-1)
  have difference : List.zipWith (Coords.blend 1 (-1)) first second =
      [⟨1, 0, -0.5⟩, ⟨1, 2, -0.25⟩] := by
    simp only [first, second, List.zipWith, Coords.blend]
    norm_num
  rw [difference] at blended
  refine ⟨blended, ?_, still rest 3 (by decide)⟩
  rw [moved (List.cons_ne_nil _ _) rest]

end Estimator

end PointerForecast
