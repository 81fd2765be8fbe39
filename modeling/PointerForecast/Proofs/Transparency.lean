/-
**Asking for a prediction changes no other answer.**

A prediction leaves something behind, the furthest point it led to, and padding reads that point.
Yet no answer depends on what an earlier prediction left. A session without an explicit rate does
not pad. A session with one can always predict, and its walk renews the point before it pads; an
extrapolation without a sample does not renew it, but then no point is left.

* `Session.withFurthest`: a session in which another point is left.
* `Session.record_withFurthest`: what is left is not read by an event, and not by a prediction that
  renews it (`Session.predictPadded_withFurthest`).
* `Predictor.serve_withFurthest`: **one command**; `Predictor.answersTo_kept`: **a run.**
* `Predictor.predict_isTransparent`: **predictions can be left out or added anywhere.**
-/

import PointerForecast.Proofs.StoredPoint

namespace PointerForecast

variable {α M : Type} [Scalar α]

/-- The entries of a list that are marked. -/
def kept {β : Type} (entries : List (β × Bool)) : List β := (entries.filter (·.2)).map (·.1)

/-! ### What an earlier prediction left -/

namespace Session

omit [Scalar α] in
/-- The session in which an earlier prediction would have left another point. -/
def withFurthest (session : Session α M) (left : Option (Coords α)) : Session α M :=
  { session with furthest := left }

variable (strategy : Strategy α M)

theorem take_withFurthest (session : Session α M) (left : Option (Coords α)) (moment : Moment α) :
    (session.withFurthest left).take strategy moment =
      (session.take strategy moment).withFurthest left := by
  show (if session.isRepetition strategy moment then session.withFurthest left
    else (session.accept strategy moment).withFurthest left) = _
  unfold take
  split <;> rfl

theorem foldl_take_withFurthest (session : Session α M) (left : Option (Coords α))
    (moments : List (Moment α)) :
    moments.foldl (take strategy) (session.withFurthest left) =
      (moments.foldl (take strategy) session).withFurthest left := by
  induction moments generalizing session with
  | nil => rfl
  | cons moment rest ih => rw [List.foldl_cons, take_withFurthest, ih, List.foldl_cons]

theorem observe_withFurthest (session : Session α M) (left : Option (Coords α))
    (event : MotionEvent α) :
    ∃ later, (session.withFurthest left).observe strategy event =
      ((session.observe strategy event).1.withFurthest later,
        (session.observe strategy event).2) := by
  unfold observe
  by_cases cancelled : event.isCancel = true
  · rw [if_pos cancelled, if_pos cancelled]
    exact ⟨none, rfl⟩
  · rw [if_neg cancelled, if_neg cancelled]
    refine ⟨left, ?_⟩
    rw [show (session.withFurthest left).pointer = session.pointer from rfl]
    cases event.trackOf session.pointer with
    | none => rfl
    | some moments =>
      exact congrArg (·, true) (foldl_take_withFurthest strategy session left moments)

/-- An event does not read what is left. -/
theorem record_withFurthest (session : Session α M) (left : Option (Coords α))
    (event : MotionEvent α) :
    ∃ later, (session.withFurthest left).record strategy event =
      ((session.record strategy event).1.withFurthest later,
        (session.record strategy event).2) := by
  rw [record_eq_observe, record_eq_observe]
  cases Command.pointer? (.observe event) with
  | none => exact observe_withFurthest strategy session left event
  | some pointer =>
    -- the stroke begins without a point, whatever was left
    exact ⟨((session.beginStroke strategy pointer).observe strategy event).1.furthest, rfl⟩

/-- A prediction changes nothing but what is left. -/
theorem predictPadded_fst (session : Session α M) :
    ∃ later, (session.predictPadded strategy).1 = session.withFurthest later := by
  show ∃ later, (session.predict strategy).1 = _
  unfold predict
  split
  · exact ⟨_, rfl⟩
  · exact ⟨session.furthest, rfl⟩

/-- A walk that renews the point does not read what is left. -/
theorem predict_withFurthest {session : Session α M} (renewed : session.IsRenewed strategy)
    {left : Option (Coords α)} (renews : (session.withFurthest left).IsRenewed strategy)
    (ready : session.canPredict strategy = true) :
    (session.withFurthest left).predict strategy = session.predict strategy := by
  have still : (session.withFurthest left).canPredict strategy = true := ready
  have walks : (session.withFurthest left).forecast strategy = session.forecast strategy :=
    renews.forecast.trans renewed.forecast.symm
  unfold predict
  rw [if_pos ready, if_pos still, walks]
  rfl

/-- **A prediction does not read what is left**: either it is not padded, or the session can predict
and renews the point before padding reads it. -/
theorem predictPadded_withFurthest [Scalar.HoldsRates α] {session : Session α M}
    (sound : session.setup.RateIsGiven) (renewed : session.IsRenewed strategy)
    {left : Option (Coords α)} (renews : (session.withFurthest left).IsRenewed strategy) :
    ∃ later, (session.withFurthest left).predictPadded strategy =
      ((session.predictPadded strategy).1.withFurthest later,
        (session.predictPadded strategy).2) := by
  by_cases ready : session.canPredict strategy = true
  · refine ⟨(session.predictPadded strategy).1.furthest, ?_⟩
    unfold predictPadded
    rw [predict_withFurthest strategy renewed renews ready]
    rfl
  · have waiting : (session.withFurthest left).canPredict strategy ≠ true := ready
    have also : (session.withFurthest left).setup.RateIsGiven := sound
    refine ⟨left, ?_⟩
    rw [predictPadded_of_waiting strategy sound ready,
      predictPadded_of_waiting strategy also waiting]

/-- No command but padding reads what is left. -/
theorem serve_withFurthest [Scalar.HoldsRates α] {session : Session α M}
    (sound : session.setup.RateIsGiven) (renewed : session.IsRenewed strategy)
    {left : Option (Coords α)} (renews : (session.withFurthest left).IsRenewed strategy)
    (command : Command α) (notPad : ∀ prediction, command ≠ .pad prediction) :
    ∃ later, (session.withFurthest left).serve strategy command =
      ((session.serve strategy command).1.withFurthest later,
        (session.serve strategy command).2) := by
  cases command with
  | setTarget milliseconds => exact ⟨left, rfl⟩
  | setRate milliseconds =>
    refine ⟨left, ?_⟩
    unfold serve answer setRate
    by_cases refused : milliseconds ≤ 0
    · simp only [if_pos refused]
    · simp only [if_neg refused]
      rfl
  | beginStroke pointer => exact ⟨none, rfl⟩
  | observe event =>
    obtain ⟨later, same⟩ := record_withFurthest strategy session left event
    refine ⟨later, ?_⟩
    unfold serve answer
    simp only [same]
  | predict =>
    obtain ⟨later, same⟩ := predictPadded_withFurthest strategy sound renewed renews
    refine ⟨later, ?_⟩
    unfold serve answer
    simp only [same]
  | pad prediction => exact absurd rfl (notPad prediction)

end Session

/-! ### Runs -/

namespace Predictor

/-- The predictor in whose session an earlier prediction would have left another point. -/
def withFurthest : Predictor α → Option (Coords α) → Predictor α
  | .kalman noise session, left => .kalman noise (session.withFurthest left)
  | .linear tuning session, left => .linear tuning (session.withFurthest left)

omit [Scalar α] in
theorem exists_withFurthest (predictor : Predictor α) :
    ∃ left, predictor.withFurthest left = predictor := by
  cases predictor with
  | kalman noise session => exact ⟨session.furthest, rfl⟩
  | linear tuning session => exact ⟨session.furthest, rfl⟩

omit [Scalar α] in
theorem withFurthest_withFurthest (predictor : Predictor α) (left later : Option (Coords α)) :
    (predictor.withFurthest left).withFurthest later = predictor.withFurthest later := by
  cases predictor <;> rfl

theorem predict_fst (predictor : Predictor α) :
    ∃ later, predictor.predict.1 = predictor.withFurthest later := by
  cases predictor with
  | kalman noise session =>
    obtain ⟨later, same⟩ := Session.predictPadded_fst (PointerForecast.kalman noise) session
    exact ⟨later, congrArg (Predictor.kalman noise) same⟩
  | linear tuning session =>
    obtain ⟨later, same⟩ := Session.predictPadded_fst (PointerForecast.linear tuning) session
    exact ⟨later, congrArg (Predictor.linear tuning) same⟩

/-- **One command.** -/
theorem serve_withFurthest [Scalar.HoldsRates α] {predictor : Predictor α}
    (sound : predictor.setup.RateIsGiven) (renewed : predictor.IsRenewed)
    {left : Option (Coords α)} (renews : (predictor.withFurthest left).IsRenewed)
    (command : Command α) (notPad : ∀ prediction, command ≠ .pad prediction) :
    ∃ later, (predictor.withFurthest left).serve command =
      ((predictor.serve command).1.withFurthest later, (predictor.serve command).2) := by
  cases predictor with
  | kalman noise session =>
    obtain ⟨later, same⟩ := Session.serve_withFurthest (PointerForecast.kalman noise) sound renewed
      renews command notPad
    refine ⟨later, ?_⟩
    unfold withFurthest serve
    simp only [same]
  | linear tuning session =>
    obtain ⟨later, same⟩ := Session.serve_withFurthest (PointerForecast.linear tuning) sound renewed
      renews command notPad
    refine ⟨later, ?_⟩
    unfold withFurthest serve
    simp only [same]

theorem predict_withFurthest [Scalar.HoldsRates α] {predictor : Predictor α}
    (sound : predictor.setup.RateIsGiven) (renewed : predictor.IsRenewed)
    {left : Option (Coords α)} (renews : (predictor.withFurthest left).IsRenewed) :
    (predictor.withFurthest left).predict.2 = predictor.predict.2 := by
  have notPad : ∀ prediction : Option (Prediction α), Command.predict ≠ .pad prediction :=
    fun prediction asked => by cases asked
  obtain ⟨later, same⟩ := serve_withFurthest sound renewed renews .predict notPad
  rw [serve_predict, serve_predict] at same
  exact Outcome.prediction.inj (congrArg (·.2) same)

/-- A predictor in which nothing is left has nothing to renew. -/
theorem isRenewed_withFurthest_none (predictor : Predictor α) :
    (predictor.withFurthest none).IsRenewed := by
  cases predictor <;> exact .inl rfl

/-- Holds of commands of which the unmarked ones are predictions. Padding is left to the
predictions. -/
def MarksAllButPredictions (script : List (Command α × Bool)) : Prop :=
  ∀ entry ∈ script, (entry.2 = false → entry.1 = .predict) ∧ ∀ prediction, entry.1 ≠ .pad prediction

/-- **A run.** The marked commands on their own are answered as they are among the others, and
whatever was left before them, as long as a walk renews it. -/
theorem answersTo_kept [Scalar.HoldsRates α] {predictor : Predictor α}
    (sound : predictor.setup.RateIsGiven) (renewed : predictor.IsRenewed)
    {left : Option (Coords α)} (renews : (predictor.withFurthest left).IsRenewed)
    {script : List (Command α × Bool)} (marks : MarksAllButPredictions script) :
    answersTo serve (predictor.withFurthest left) (kept script) =
      kept ((answersTo serve predictor (script.map (·.1))).zip (script.map (·.2))) := by
  induction script generalizing predictor left with
  | nil => rfl
  | cons entry rest ih =>
    obtain ⟨command, marked⟩ := entry
    obtain ⟨unmarked, notPad⟩ := marks _ List.mem_cons_self
    have others : MarksAllButPredictions rest :=
      fun entry inside => marks entry (List.mem_cons_of_mem _ inside)
    have next : (predictor.serve command).1.setup.RateIsGiven :=
      rateIsGiven_stateAfter sound [command]
    have nextRenewed : (predictor.serve command).1.IsRenewed := renewed.serve command
    cases marked with
    | true =>
      -- the command is given to both, and leaves them apart at most in the point left
      obtain ⟨later, same⟩ := serve_withFurthest sound renewed renews command notPad
      have laterRenewed := renews.serve command
      rw [same] at laterRenewed
      show ((predictor.withFurthest left).serve command).2 ::
          answersTo serve ((predictor.withFurthest left).serve command).1 (kept rest) =
        (predictor.serve command).2 :: kept ((answersTo serve (predictor.serve command).1
          (rest.map (·.1))).zip (rest.map (·.2)))
      rw [same, ih next nextRenewed laterRenewed others]
    | false =>
      -- the prediction is left out on one side, and changes at most the point left on the other
      obtain rfl : command = .predict := unmarked rfl
      obtain ⟨later, same⟩ := predict_fst predictor
      have still : (predictor.serve .predict).1.withFurthest left = predictor.withFurthest left := by
        rw [serve_predict, same, withFurthest_withFurthest]
      show answersTo serve (predictor.withFurthest left) (kept rest) =
        kept ((answersTo serve (predictor.serve .predict).1 (rest.map (·.1))).zip
          (rest.map (·.2)))
      rw [← ih next nextRenewed (still ▸ renews) others, still]

/-- **Predictions can be left out or added anywhere.** Of the commands to a new predictor, those
that are left when any predictions are taken out are answered as before. After any commands,

* two predictions in a row are equal;
* a prediction, padding included, is the one that would be made if no earlier prediction, of this
  stroke or another, had left a point;
* and an extrapolation that has no sample to start from has no point left either. -/
theorem predict_isTransparent {settings : PredictorSettings Float} {start : Predictor Float}
    (built : ofSettings settings = .ok start) :
    (∀ script : List (Command Float × Bool), MarksAllButPredictions script →
      answersTo serve start (kept script) =
        kept ((answersTo serve start (script.map (·.1))).zip (script.map (·.2)))) ∧
    ∀ commands : List (Command Float),
      let predictor := stateAfter serve start commands
      predictor.predict.1.predict.2 = predictor.predict.2 ∧
      (predictor.withFurthest none).predict.2 = predictor.predict.2 ∧
      ∀ tuning session, predictor = .linear tuning session → session.memory.history = [] →
        session.furthest = none := by
  have sound := rateIsGiven_ofSettings built
  have renewed := IsRenewed.ofSettings built
  refine ⟨fun script marks => ?_, fun commands => ?_⟩
  · obtain ⟨left, same⟩ := exists_withFurthest start
    have run := answersTo_kept sound renewed (same.symm ▸ renewed) marks
    rwa [same] at run
  · intro predictor
    have settled : predictor.setup.RateIsGiven := rateIsGiven_stateAfter sound commands
    have still : predictor.IsRenewed := renewed.stateAfter commands
    obtain ⟨later, same⟩ := predict_fst predictor
    refine ⟨?_, ?_, ?_⟩
    · have next := still.serve .predict
      rw [serve_predict, same] at next
      rw [same]
      exact predict_withFurthest settled still next
    · exact predict_withFurthest settled still (isRenewed_withFurthest_none predictor)
    · intro tuning session same empty
      rw [same] at still
      exact Session.furthest_eq_none still empty

/-- A contact of pointer 4, three samples 8 ms apart, and a prediction at an explicit rate: two more
predictions in between change nothing. -/
theorem predict_isTransparent_between :
    let settings : PredictorSettings Float :=
      { PredictorSettings.usual with strategy := .linear, rate? := some 8 }
    let down : Command Float := .observe ⟨.down, [4], [⟨0, [⟨1, 2, 0.5⟩]⟩]⟩
    let move : Command Float :=
      .observe ⟨.move, [4], [⟨8, [⟨3, 5, 0.5⟩]⟩, ⟨16, [⟨5, 8, 0.25⟩]⟩]⟩
    let script : List (Command Float × Bool) :=
      [(down, true), (.predict, false), (move, true), (.predict, false), (.predict, true)]
    ∃ start, ofSettings settings = .ok start ∧ MarksAllButPredictions script ∧
      answersTo serve start [down, move, .predict] =
        kept ((answersTo serve start [down, .predict, move, .predict, .predict]).zip
          [true, false, true, false, true]) := by
  intro settings down move script
  obtain ⟨start, built⟩ : ∃ start, ofSettings settings = .ok start := ⟨_, rfl⟩
  have marks : MarksAllButPredictions script := by
    simp [MarksAllButPredictions, script, down, move]
  exact ⟨start, built, marks, (predict_isTransparent built).1 script marks⟩

end Predictor

end PointerForecast
