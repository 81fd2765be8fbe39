/-
**Which observations a session accepts.**

An observation is dropped if it repeats the one that was accepted before it. What a session accepts
out of an event therefore depends on the tracked pointer and on the observation it accepted last, and
on nothing else that its strategy remembers.

* `accepted`: the observations accepted out of some; `accepted_append`: out of two parts.
* `Session.foldl_take`: taking observations is accepting the accepted ones.
* `Session.observe_accepts`: **an event makes a session accept `Session.acceptedFrom`**.
-/

import PointerForecast.Session

namespace PointerForecast

variable {α M : Type} [Scalar α]

/-- The observations accepted out of some, when one may have been accepted before. -/
def accepted : Option (Moment α) → List (Moment α) → List (Moment α)
  | _, [] => []
  | last, moment :: rest =>
    if last.any (·.isRepeatedBy moment) then accepted last rest
    else moment :: accepted (some moment) rest

theorem mem_of_mem_accepted {last : Option (Moment α)} {moments : List (Moment α)}
    {moment : Moment α} (member : moment ∈ accepted last moments) : moment ∈ moments := by
  induction moments generalizing last with
  | nil => cases member
  | cons first rest ih =>
    rw [accepted] at member
    split at member
    · exact List.mem_cons_of_mem _ (ih member)
    · rcases List.mem_cons.mp member with rfl | later
      · exact List.mem_cons_self
      · exact List.mem_cons_of_mem _ (ih later)

/-- **Observations in two parts**: the last one accepted of the first part decides, with the second
part, what is accepted of that. -/
theorem accepted_append (last : Option (Moment α)) (before after : List (Moment α)) :
    accepted last (before ++ after) =
      accepted last before ++ accepted ((accepted last before).getLast?.or last) after := by
  induction before generalizing last with
  | nil => rfl
  | cons moment rest ih =>
    rw [List.cons_append, accepted, accepted]
    by_cases repetition : last.any (·.isRepeatedBy moment) = true
    · rw [if_pos repetition, if_pos repetition, ih]
    · have latest : (moment :: accepted (some moment) rest).getLast?.or last =
          (accepted (some moment) rest).getLast?.or (some moment) := by
        rw [List.getLast?_cons]
        cases (accepted (some moment) rest).getLast? <;> rfl
      rw [if_neg repetition, if_neg repetition, ih, latest, List.cons_append]

namespace Session

variable (strategy : Strategy α M)

/-- The observations that a session accepts out of an event. -/
def acceptedFrom (session : Session α M) (event : MotionEvent α) : List (Moment α) :=
  if event.isCancel then []
  else accepted (session.last strategy) ((event.trackOf session.pointer).getD [])

/-- Holds if an event makes a session accept exactly these observations, in order. A cancelled stroke
accepts none and is forgotten. -/
def Accepts (session : Session α M) (event : MotionEvent α) (moments : List (Moment α)) : Prop :=
  if event.isCancel then moments = [] ∧ (session.observe strategy event).1 = session.clear strategy
  else (session.observe strategy event).1 = moments.foldl (accept strategy) session

theorem isRepetition_eq_any (session : Session α M) (moment : Moment α) :
    session.isRepetition strategy moment =
      (session.last strategy).any (·.isRepeatedBy moment) := by
  unfold isRepetition
  cases session.last strategy <;> rfl

/-- Taking observations is accepting the accepted ones. -/
theorem foldl_take (session : Session α M) (moments : List (Moment α)) :
    moments.foldl (take strategy) session =
      (accepted (session.last strategy) moments).foldl (accept strategy) session := by
  induction moments generalizing session with
  | nil => rfl
  | cons moment rest ih =>
    rw [List.foldl_cons, ih, take, isRepetition_eq_any, accepted]
    by_cases repetition : (session.last strategy).any (·.isRepeatedBy moment) = true
    · rw [if_pos repetition, if_pos repetition]
    · rw [if_neg repetition, if_neg repetition, last_accept]
      rfl

/-- **What a session accepts out of an event.** -/
theorem observe_accepts (session : Session α M) (event : MotionEvent α) :
    session.Accepts strategy event (session.acceptedFrom strategy event) := by
  unfold Accepts acceptedFrom observe
  by_cases cancelled : event.isCancel = true
  · simp only [if_pos cancelled, and_self]
  · simp only [if_neg cancelled]
    cases event.trackOf session.pointer with
    | none => rfl
    | some moments => exact foldl_take strategy session moments

/-- Whether an event is handled depends on its shape. -/
theorem observe_snd (session : Session α M) (event : MotionEvent α) :
    (session.observe strategy event).2 =
      (!event.isCancel && (event.trackOf session.pointer).isSome) := by
  unfold observe
  by_cases cancelled : event.isCancel = true
  · simp [cancelled]
  · cases tracked : event.trackOf session.pointer <;> simp [cancelled]

end Session

end PointerForecast
