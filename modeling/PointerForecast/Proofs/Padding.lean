/-
**Padding only ever adds.**

A session fills a prediction up to the number of samples expected. The prediction may be any: one that
the session has not made, of another pointer, longer than expected, without samples, or none at all. What
it holds is kept in front, and as many copies of one sample as are missing follow it. That sample depends
on the session alone, so padding a second time adds nothing.

* `Session.toFill`, `Session.held`: what there is to fill up, and how many samples it holds.
* `Session.pad_of_le`, `Session.pad_of_lt`: a prediction that is long enough and one that is not;
  `Session.pad_eq_self_iff`: **which predictions stay as they are.**
* `Session.length_pad`, `Session.prefix_pad`, `Session.pad_pad`: **the length of what is padded, its
  beginning, and padding again.**
* `Session.padding_onlyAdds`: **after any run.**
-/

import PointerForecast.Proofs.Configuration

namespace PointerForecast

variable {α M : Type} [Scalar α]

namespace Session

/-! ### One prediction -/

omit [Scalar α] in
/-- What there is to fill up: without a prediction, an empty one of the tracked pointer. -/
def toFill (session : Session α M) (prediction : Option (Prediction α)) : Prediction α :=
  prediction.getD ⟨session.pointer, []⟩

omit [Scalar α] in
/-- How many samples a prediction holds, if there is one. -/
def held (prediction : Option (Prediction α)) : Nat := (prediction.map (·.length)).getD 0

omit [Scalar α] in
theorem length_toFill (session : Session α M) (prediction : Option (Prediction α)) :
    (session.toFill prediction).length = held prediction := by
  cases prediction <;> rfl

variable (strategy : Strategy α M) {session : Session α M} {prediction : Option (Prediction α)}

/-- A prediction that is long enough stays as it is; so does any if no number is expected. -/
theorem pad_of_le (enough : session.expected?.getD 0 ≤ held prediction) :
    session.pad strategy prediction = prediction := by
  unfold pad
  cases known : session.expected? with
  | none => rfl
  | some expected =>
    rw [known, Option.getD_some] at enough
    exact if_pos enough

/-- A prediction that is too short is filled up. -/
theorem pad_of_lt (short : held prediction < session.expected?.getD 0) :
    session.pad strategy prediction = some ((session.toFill prediction).append
      (List.replicate (session.expected?.getD 0 - held prediction) (session.padding strategy))) := by
  unfold pad
  cases known : session.expected? with
  | none =>
    rw [known] at short
    exact absurd short (Nat.not_lt_zero _)
  | some expected =>
    rw [known, Option.getD_some] at short
    exact if_neg (Nat.not_le.mpr short)

/-- **The length of what is padded**: the number expected, unless there was more. -/
theorem length_pad (session : Session α M) (prediction : Option (Prediction α)) :
    held (session.pad strategy prediction) = max (session.expected?.getD 0) (held prediction) := by
  rcases Nat.lt_or_ge (held prediction) (session.expected?.getD 0) with short | enough
  · rw [pad_of_lt strategy short, max_eq_left short.le]
    show (_ ++ List.replicate _ _).length = _
    rw [List.length_append, List.length_replicate, ← Prediction.length, length_toFill]
    exact Nat.add_sub_of_le short.le
  · rw [pad_of_le strategy enough, max_eq_right enough]

/-- **Which predictions stay as they are.** -/
theorem pad_eq_self_iff : session.pad strategy prediction = prediction ↔
    session.expected?.getD 0 ≤ held prediction := by
  refine ⟨fun same => ?_, pad_of_le strategy⟩
  have length := length_pad strategy session prediction
  rw [same] at length
  exact max_eq_right_iff.mp length.symm

/-- **Padding again** adds nothing. -/
theorem pad_pad (session : Session α M) (prediction : Option (Prediction α)) :
    session.pad strategy (session.pad strategy prediction) = session.pad strategy prediction := by
  refine pad_of_le strategy ?_
  rw [length_pad]
  exact le_max_left _ _

/-- **What a prediction holds stays in front**, and the pointer stays. -/
theorem prefix_pad (session : Session α M) (own : Prediction α) :
    ∃ result, session.pad strategy (some own) = some result ∧ result.pointer = own.pointer ∧
      own.samples <+: result.samples := by
  rcases Nat.lt_or_ge (held (some own)) (session.expected?.getD 0) with short | enough
  · exact ⟨_, pad_of_lt strategy short, rfl, List.prefix_append _ _⟩
  · exact ⟨own, pad_of_le strategy enough, rfl, List.prefix_rfl⟩

/-- Nothing comes of nothing only if no sample is expected. -/
theorem pad_none_eq_none_iff : session.pad strategy none = none ↔
    session.expected? = none ∨ session.expected? = some 0 := by
  rw [pad_eq_self_iff]
  cases session.expected? <;> simp [held]

/-! ### After any run -/

/-- **Padding only ever adds.** After any commands to a new session, of either strategy, there is a sample
that fills up whatever prediction the session is given, or none. Padding answers it and changes nothing.

* If no number of samples is expected, or the prediction holds as many, it stays as it is.
* Otherwise the result is of exactly the expected length: the samples of the prediction, unchanged and in
  order, and copies of the one sample for those that are missing. It is of the same pointer, and of the
  tracked one without a prediction.
* Padding the result again does not change it, and no prediction is cut off or reordered.
* Without a prediction there is none afterwards if and only if no number is expected, or it is zero.

The number expected is the one that the two setters keep up to date. -/
theorem padding_onlyAdds (commands : List (Command α)) :
    let session := stateAfter (apply strategy) (start strategy) commands
    let expected? := (stateAfter (applyKeeping strategy) (start strategy, none) commands).2
    ∃ filling : Coords α, ∀ prediction : Option (Prediction α),
      let held := (prediction.map (·.length)).getD 0
      let padded := session.pad strategy prediction
      session.apply strategy (.pad prediction) = (session, .prediction padded) ∧
      (expected? = none → padded = prediction) ∧
      (∀ expected ∈ expected?, expected ≤ held → padded = prediction) ∧
      (∀ expected ∈ expected?, held < expected →
        ∃ result added, padded = some result ∧ result.length = expected ∧
          0 < added ∧ held + added = expected ∧
          result.pointer = (prediction.map (·.pointer)).getD session.pointer ∧
          result.samples = (prediction.map (·.samples)).getD [] ++ List.replicate added filling) ∧
      session.pad strategy padded = padded ∧
      (∀ own ∈ prediction, ∃ result ∈ padded, result.pointer = own.pointer ∧
        own.samples <+: result.samples) ∧
      (prediction = none → (padded = none ↔ expected? = none ∨ expected? = some 0)) := by
  intro session expected?
  have kept : expected? = session.expected? :=
    congrArg Prod.snd (stateAfter_applyKeeping strategy (start strategy) commands)
  rw [kept]
  refine ⟨session.padding strategy, fun prediction => ⟨rfl, fun unexpected => ?_, ?_, ?_,
    pad_pad strategy session prediction, ?_, ?_⟩⟩
  · refine pad_of_le strategy ?_
    rw [unexpected]
    exact Nat.zero_le _
  · intro expected known enough
    refine pad_of_le strategy ?_
    rw [Option.mem_def.mp known]
    exact enough
  · intro expected known short
    have number : session.expected?.getD 0 = expected := by rw [Option.mem_def.mp known, Option.getD_some]
    have missing : Session.held prediction < session.expected?.getD 0 := number ▸ short
    have length := length_pad strategy session prediction
    rw [pad_of_lt strategy missing, max_eq_left missing.le, number] at length
    refine ⟨_, _, (pad_of_lt strategy missing).trans (by rw [number]), length, Nat.sub_pos_of_lt short,
      Nat.add_sub_of_le short.le, ?_, ?_⟩
    · cases prediction <;> rfl
    · cases prediction <;> rfl
  · rintro own rfl
    exact prefix_pad strategy session own
  · rintro rfl
    exact pad_none_eq_none_iff strategy

end Session

end PointerForecast
