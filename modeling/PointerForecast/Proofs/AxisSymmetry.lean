/-
**The axes are interchangeable.**

Nothing tells one axis from the other: each has a filter of its own with the same model, and where
both matter it is by a length, in which the order of the two squares plays no part since addition is
commutative. A predictor that sees the world with its axes exchanged predicts the world with its axes
exchanged, to the last bit.

* `Double.add_comm`: **addition is commutative**, whatever is added.
* `Estimator.absorb_swap`: the filters of the axes change places.
* `exchange_rigid`, `exchange_steady`: exchanging the axes is a motion of the plane.
* `Predictor.axes_areInterchangeable`: the theorem.
-/

import PointerForecast.Proofs.RigidMotion

namespace PointerForecast

/-! ### Sums -/

namespace Double

open Float.Model (Format UnpackedFloat)

theorem unpacked_add_comm (spec : Format) (u v : UnpackedFloat) :
    UnpackedFloat.add spec u v = UnpackedFloat.add spec v u := by
  cases u with
  | notANumber => cases v <;> rfl
  | infinity s => cases v with
    | infinity t => cases s <;> cases t <;> rfl
    | _ => rfl
  | zero s => cases v with
    | zero t => cases s <;> cases t <;> rfl
    | _ => rfl
  | finite s m e positive => cases v with
    | finite t n f positive' =>
      -- The significands are aligned to the smaller exponent and added as integers.
      simp only [UnpackedFloat.add]
      rw [Int.min_comm, Int.add_comm]
    | _ => rfl

theorem add_comm (x y : Float) : x + y = y + x :=
  congrArg (fun u => Float.ofModel (.pack u)) (unpacked_add_comm _ _ _)

end Double

instance Double.commutative_add : Std.Commutative fun x y : Float => x + y :=
  ⟨Double.add_comm⟩

/-! ### Exchanged axes -/

variable {α : Type}

/-- The vector with its components exchanged. -/
def Planar.swap (v : Planar α) : Planar α := ⟨v.y, v.x⟩

/-- The coordinates with the axes exchanged. -/
def Coords.swap (coords : Coords α) : Coords α := ⟨coords.y, coords.x, coords.pressure⟩

/-- The command with the axes of what is observed exchanged. -/
def Command.swap : Command α → Command α := onEvent (.moved id Coords.swap)

/-- The estimator with the filters of the axes exchanged. -/
def Estimator.swap (estimator : Estimator α) : Estimator α :=
  ⟨estimator.y, estimator.x, estimator.pressure, estimator.count⟩

/-- An observation stands for the one with the axes exchanged, and so does a predicted sample. -/
def exchange : Correspondence α where
  seen moment other := other.time = moment.time ∧ other.coords = moment.coords.swap
  placed _ := Coords.swap

theorem MotionEvent.corresponds_swap (event : MotionEvent α) :
    event.Corresponds exchange.seen (event.moved id Coords.swap) :=
  corresponds_moved fun _ _ _ _ => ⟨rfl, rfl⟩

variable [Scalar α]

theorem Estimator.absorb_swap (noise : Noise α) (estimator : Estimator α) (sample : Coords α) :
    estimator.swap.absorb noise sample.swap = (estimator.absorb noise sample).swap := by
  by_cases fresh : estimator.count = 0
  · have same : estimator.swap.count = 0 := fresh
    rw [absorb, absorb, if_pos fresh, if_pos same]
    rfl
  · have same : ¬estimator.swap.count = 0 := fresh
    rw [absorb, absorb, if_neg fresh, if_neg same]
    rfl

theorem exchange_steady : (exchange : Correspondence α).Steady where
  gap last now := by rw [last.1, now.1]
  rests last now := by
    rw [last.2, now.2]
    exact Bool.and_comm _ _

section Commutative

variable [Std.Commutative fun a b : α => a + b]

theorem Planar.norm_swap (v : Planar α) : v.swap.norm = v.norm := by
  have commutes : Std.Commutative fun a b : α => a + b := inferInstance
  exact congrArg Scalar.sqrt (commutes.comm (v.y * v.y) (v.x * v.x))

theorem exchange_rigid : (exchange : Correspondence α).Rigid Planar.swap fun _ => Planar.swap where
  zero := rfl
  add _ _ := rfl
  sub _ _ := rfl
  scale _ _ := rfl
  div _ _ := rfl
  norm := Planar.norm_swap
  origin := rfl
  carry_add _ _ _ := rfl
  carry_sub _ _ _ := rfl
  position now := by
    unfold Moment.position
    rw [now.2]
    rfl
  pressure now := by rw [now.2, Coords.swap]
  placed _ _ _ := rfl

theorem kalman_carries_exchange (noise : Noise α) :
    (kalman noise).Carries exchange
      (Tracker.Corresponds exchange fun first second => second = first.swap) := by
  refine kalman_carries noise exchange_rigid rfl ?_ ?_ ?_
  · rintro first _ rfl moment other now
    rw [now.2, Estimator.absorb_swap]
  · rintro first _ rfl
    rfl
  · rintro first _ rfl
    exact ⟨rfl, rfl, rfl, rfl, rfl⟩

end Commutative

/-! ### Runs -/

/-- **Sessions with the axes exchanged**, if the strategy carries that over. -/
theorem Session.swap_configure {M : Type} [Scalar.HoldsRates α] {strategy : Strategy α M}
    {memory : M → M → Prop} (carries : strategy.Carries exchange memory)
    {settings : PredictorSettings α} {session : Session α M}
    (built : Predictor.configure settings strategy = .ok session) {commands : List (Command α)}
    (answered : ∀ command ∈ commands, command.isPad = false) :
    answersTo (serve strategy) session (commands.map Command.swap) =
        (answersTo (serve strategy) session commands).map (.map Coords.swap) ∧
      (stateAfter (serve strategy) session commands).Corresponds strategy exchange memory
        (stateAfter (serve strategy) session (commands.map Command.swap)) := by
  have both := Corresponds.configured carries built
  have sound := rateIsGiven_configure built
  exact ⟨both.answersTo carries exchange_steady (fun _ => rfl) sound MotionEvent.corresponds_swap
    answered, both.stateAfter carries exchange_steady sound MotionEvent.corresponds_swap answered⟩

namespace Predictor

/-- **The axes are interchangeable.** A predictor that is told and asked the same, with the axes of all
observations exchanged, gives the same answers with the axes of all predicted samples exchanged: the
same events are handled, and predictions are of the same pointer, length and pressures. What it knows
of the report rate stays the same, and so does its setup. -/
theorem axes_areInterchangeable {settings : PredictorSettings Float} {start : Predictor Float}
    (built : ofSettings settings = .ok start) {commands : List (Command Float)}
    (answered : ∀ command ∈ commands, command.isPad = false) :
    let swapped := commands.map Command.swap
    answersTo serve start swapped = (answersTo serve start commands).map (.map Coords.swap) ∧
      (stateAfter serve start swapped).rate = (stateAfter serve start commands).rate ∧
      (stateAfter serve start swapped).setup = (stateAfter serve start commands).setup := by
  intro swapped
  rcases ofSettings_eq_ok built with ⟨_, session, configured, rfl⟩ | ⟨_, session, configured, rfl⟩
  · obtain ⟨answers, both⟩ :=
      Session.swap_configure (kalman_carries_exchange _) configured answered
    simp only [(wraps_kalman _).answersTo, (wraps_kalman _).stateAfter]
    exact ⟨answers, both.rate, both.setup⟩
  · obtain ⟨answers, both⟩ := Session.swap_configure
      (linear_carries _ exchange_rigid exchange_steady) configured answered
    simp only [(wraps_linear _).answersTo, (wraps_linear _).stateAfter]
    exact ⟨answers, both.rate, both.setup⟩

/-- A stroke that runs along one axis and bends into the other one, at a rate that is given on the
way. -/
theorem axes_areInterchangeable_bend :
    let settings : PredictorSettings Float := .usual
    let commands : List (Command Float) :=
      [.observe ⟨.down, [3], [⟨0, [⟨0, 7, 0.5⟩]⟩, ⟨8, [⟨4, 7, 0.5⟩]⟩, ⟨16, [⟨8.5, 7.25, 0.5⟩]⟩]⟩,
        .predict, .setTarget 24, .setRate 8, .observe ⟨.move, [3], [⟨24, [⟨12, 8, 0.6⟩]⟩]⟩, .predict]
    ∃ start, ofSettings settings = .ok start ∧
      (∀ command ∈ commands, command.isPad = false) ∧
      answersTo serve start (commands.map Command.swap) =
        (answersTo serve start commands).map (.map Coords.swap) := by
  intro settings commands
  obtain ⟨start, built⟩ : ∃ start, ofSettings settings = .ok start := ⟨_, rfl⟩
  have answered : ∀ command ∈ commands, command.isPad = false := by
    simp [commands, Command.isPad]
  exact ⟨start, built, answered, (axes_areInterchangeable built answered).1⟩

end Predictor

end PointerForecast
