/-
**Which traces are loaded, and what a loaded trace holds.**

A trace whose text can be read is loaded if and only if each of its events has a batch and each batch
has one entry per pointer. Otherwise the first event that is not so is reported by its position. That it
has no batch goes before anything else; then the first batch that does not fit is reported, with its
counts.

The history of a pointer passes over a batch that has no entry at the pointer's position. In an event of
the right shape there is no such batch, so no observation is lost: every pointer of the event has one
observation per batch, in order. A pointer that an event lists twice is read where it stands first.

* `MotionEvent.IsWellShaped`, `MotionEvent.HasFault`: the shape of an event and what can be wrong with
  it; `MotionEvent.fault?_eq_none_iff`, `MotionEvent.fault?_eq_some_iff`: **the check of one event.**
* `Trace.fault?_eq_none_iff`, `Trace.fault?_eq_some_iff`: **the check of a trace.**
* `MotionEvent.indexOf?_eq_some_iff`: where a pointer is read; `MotionEvent.IsWellShaped.history`: **its
  history is complete.**
* `loadTrace_isExact`: **the loaded traces.**
-/

import Mathlib.Data.List.Forall2
import PointerForecast.Proofs.TraceNumbers

namespace PointerForecast

variable {α : Type}

/-! ### One event -/

namespace MotionEvent

/-- Holds of an event that has a batch, and one entry per pointer in each. -/
def IsWellShaped (event : MotionEvent α) : Prop :=
  event.batches ≠ [] ∧ ∀ batch ∈ event.batches, batch.coords.length = event.pointers.length

/-- What is wrong with the shape of an event. -/
inductive HasFault (event : MotionEvent α) : Fault → Prop where
  /-- It has no batch. -/
  | empty (nothing : event.batches = []) : HasFault event .emptyEvent
  /-- This is its first batch that does not have one entry per pointer. -/
  | mismatch {before after : List (Batch α)} {batch : Batch α}
      (split : event.batches = before ++ batch :: after)
      (fitting : ∀ earlier ∈ before, earlier.coords.length = event.pointers.length)
      (misfit : batch.coords.length ≠ event.pointers.length) :
      HasFault event (.pointerCountMismatch event.pointers.length batch.coords.length)

theorem fault?_of_batches (event : MotionEvent α) (some : event.batches ≠ []) :
    event.fault? = (event.batches.find? fun batch =>
      batch.coords.length ≠ event.pointers.length).map fun batch =>
        .pointerCountMismatch event.pointers.length batch.coords.length := by
  unfold fault?
  cases given : event.batches with
  | nil => exact absurd given some
  | cons first rest => rfl

/-- **An event without a fault** is of the right shape. -/
theorem fault?_eq_none_iff {event : MotionEvent α} : event.fault? = none ↔ event.IsWellShaped := by
  by_cases nothing : event.batches = []
  · simp [fault?, IsWellShaped, nothing]
  · rw [fault?_of_batches event nothing, Option.map_eq_none_iff, List.find?_eq_none]
    simp [IsWellShaped, nothing]

/-- **The fault of an event** is the first one. -/
theorem fault?_eq_some_iff {event : MotionEvent α} {fault : Fault} :
    event.fault? = some fault ↔ event.HasFault fault := by
  by_cases nothing : event.batches = []
  · have empty : event.fault? = some .emptyEvent := by simp [fault?, nothing]
    rw [empty, Option.some.injEq]
    constructor
    · rintro rfl
      exact .empty nothing
    · intro faulty
      cases faulty with
      | empty _ => rfl
      | mismatch split _ _ => simp [nothing] at split
  · rw [fault?_of_batches event nothing, Option.map_eq_some_iff]
    constructor
    · rintro ⟨batch, found, rfl⟩
      obtain ⟨misfit, before, after, split, fitting⟩ := List.find?_eq_some_iff_append.mp found
      refine .mismatch split (fun earlier member => ?_) (of_decide_eq_true misfit)
      simpa using fitting earlier member
    · intro faulty
      cases faulty with
      | empty none => exact absurd none nothing
      | @mismatch before after batch split fitting misfit =>
        refine ⟨batch, List.find?_eq_some_iff_append.mpr ⟨by simpa using misfit, before, after, split,
          fun earlier member => by simpa using fitting earlier member⟩, rfl⟩

theorem check_eq_ok_iff {event other : MotionEvent α} :
    event.check = .ok other ↔ other = event ∧ event.IsWellShaped := by
  rw [← fault?_eq_none_iff]
  unfold check
  cases event.fault? with
  | none => simp [eq_comm]
  | some fault => simp

/-! ### The history of a pointer -/

/-- **Where a pointer is read**: at its first position. -/
theorem indexOf?_eq_some_iff {event : MotionEvent α} {pointer : PointerId} {index : Nat} :
    event.indexOf? pointer = some index ↔ event.pointers[index]? = some pointer ∧
      ∀ earlier < index, event.pointers[earlier]? ≠ some pointer := by
  unfold indexOf?
  rw [List.findIdx?_eq_some_iff_getElem]
  constructor
  · rintro ⟨inside, here, before⟩
    refine ⟨?_, fun earlier less same => ?_⟩
    · rw [List.getElem?_eq_getElem inside, eq_of_beq here]
    · have there := before earlier less
      rw [List.getElem?_eq_getElem (less.trans inside), Option.some.injEq] at same
      simp [same] at there
  · rintro ⟨here, before⟩
    obtain ⟨inside, same⟩ := List.getElem?_eq_some_iff.mp here
    refine ⟨inside, beq_of_eq same, fun earlier less => ?_⟩
    have there := before earlier less
    rw [List.getElem?_eq_getElem (less.trans inside), ne_eq, Option.some.injEq] at there
    simpa using there

theorem indexOf?_eq_none_iff {event : MotionEvent α} {pointer : PointerId} :
    event.indexOf? pointer = none ↔ pointer ∉ event.pointers := by
  unfold indexOf?
  rw [List.findIdx?_eq_none_iff]
  constructor
  · intro others listed
    simpa using others pointer listed
  · rintro absent other listed
    exact beq_eq_false_iff_ne.mpr fun same => absent (same ▸ listed)

/-- **In an event of the right shape the history of every position is complete**: it has the entry at
this position of each batch, in order, with the time of the batch. -/
theorem IsWellShaped.history {event : MotionEvent α} (shaped : event.IsWellShaped) {index : Nat}
    (inside : index < event.pointers.length) :
    List.Forall₂ (fun moment batch => moment.time = batch.time ∧
      batch.coords[index]? = some moment.coords) (event.history index) event.batches := by
  have entry : ∀ batch ∈ event.batches, index < batch.coords.length :=
    fun batch member => (shaped.2 batch member).symm ▸ inside
  unfold MotionEvent.history
  generalize event.batches = batches at entry ⊢
  induction batches with
  | nil => exact .nil
  | cons batch rest ih =>
    obtain ⟨present, others⟩ := List.forall_mem_cons.mp entry
    have found := List.getElem?_eq_getElem present
    rw [List.filterMap_cons_some (by rw [found, Option.map_some])]
    exact .cons ⟨rfl, found⟩ (ih others)

end MotionEvent

/-! ### One trace -/

namespace Trace

/-- **A trace without a fault** has events of the right shape only. -/
theorem fault?_eq_none_iff {events : List (MotionEvent α)} :
    fault? events = none ↔ ∀ event ∈ events, event.IsWellShaped := by
  unfold fault?
  rw [List.findSome?_eq_none_iff]
  constructor
  · intro sound event member
    obtain ⟨index, found⟩ := List.mem_iff_getElem?.mp member
    have checked := sound (event, index) (List.mk_mem_zipIdx_iff_getElem?.mpr found)
    exact MotionEvent.fault?_eq_none_iff.mp (Option.map_eq_none_iff.mp checked)
  · rintro sound ⟨event, index⟩ member
    have found := List.mem_of_getElem? (List.mk_mem_zipIdx_iff_getElem?.mp member)
    exact Option.map_eq_none_iff.mpr (MotionEvent.fault?_eq_none_iff.mpr (sound event found))

/-- **The fault of a trace** is that of its first event with one. -/
theorem fault?_eq_some_iff {events : List (MotionEvent α)} {index : Nat} {fault : Fault} :
    fault? events = some (index, fault) ↔
      ∃ before event after, events = before ++ event :: after ∧ before.length = index ∧
        (∀ earlier ∈ before, earlier.IsWellShaped) ∧ event.HasFault fault := by
  have passed (before : List (MotionEvent α)) : (∀ entry ∈ before.zipIdx,
      entry.1.fault?.map (entry.2, ·) = none) ↔ ∀ earlier ∈ before, earlier.IsWellShaped := by
    rw [← fault?_eq_none_iff, fault?, List.findSome?_eq_none_iff]
  unfold fault?
  rw [List.findSome?_eq_some_iff]
  constructor
  · rintro ⟨_, ⟨event, position⟩, _, split, found, sound⟩
    obtain ⟨before, _, rfl, rfl, rest⟩ := List.zipIdx_eq_append_iff.mp split
    obtain ⟨_, after, rfl, here, _⟩ := List.zipIdx_eq_cons_iff.mp rest.symm
    obtain ⟨rfl, rfl⟩ := Prod.mk.inj here
    obtain ⟨_, faulty, same⟩ := Option.map_eq_some_iff.mp found
    obtain ⟨rfl, rfl⟩ := Prod.mk.inj same
    exact ⟨before, event, after, rfl, (Nat.zero_add _).symm, (passed before).mp sound,
      MotionEvent.fault?_eq_some_iff.mp faulty⟩
  · rintro ⟨before, event, after, rfl, rfl, earlier, faulty⟩
    refine ⟨before.zipIdx, (event, before.length), after.zipIdx (before.length + 1), ?_, ?_,
      (passed before).mpr earlier⟩
    · rw [List.zipIdx_append, List.zipIdx_cons, Nat.zero_add]
    · exact Option.map_eq_some_iff.mpr ⟨fault, MotionEvent.fault?_eq_some_iff.mpr faulty, rfl⟩

end Trace

/-! ### Loading -/

/-- A trace that can be read is loaded if its events pass the check. -/
theorem loadTrace_of_parsed {path text : String} {content : FileContent}
    {events : List (MotionEvent Float)} (readable : content.text = .ok text)
    (parsed : Trace.ofText text = .ok events) : loadTrace path content = checkTrace events := by
  unfold loadTrace
  rw [readable]
  show (Trace.ofText text).mapError _ >>= _ = _
  rw [parsed]
  rfl

/-- **Which traces are loaded, and what they hold.** Let the text of a file be read as some events.

* They are loaded if and only if each has a batch, and one entry per pointer in each batch.
* Otherwise the failure names the position of the first event that is not so, and its cause is that this
  event has no batch, or else the two counts of its first batch that does not fit.
* Every event that is loaded, and every other one that passes its own check, has a history for each of
  its pointers that is complete: it is read at the first position of the pointer, and has one observation
  per batch, in order, with the time of the batch and its entry at that position. For any other pointer
  there is no position. -/
theorem loadTrace_isExact (path : String) {text : String} {content : FileContent}
    {events : List (MotionEvent Float)} (readable : content.text = .ok text)
    (parsed : Trace.ofText text = .ok events) :
    let result := loadTrace path content
    (result = .ok events ↔ ∀ event ∈ events, event.IsWellShaped) ∧
    (result ≠ .ok events →
      ∃ before event after fault, events = before ++ event :: after ∧
        (∀ earlier ∈ before, earlier.IsWellShaped) ∧ event.HasFault fault ∧
        result = .error (.invalidEvent before.length fault) ∧
        (Failure.invalidEvent before.length fault).contexts =
          ["Invalid trace event #" ++ toString before.length, fault.message]) ∧
    ∀ event, (result = .ok events ∧ event ∈ events) ∨ event.check = .ok event → ∀ pointer,
      (pointer ∈ event.pointers → ∃ index, event.indexOf? pointer = some index ∧
        event.pointers[index]? = some pointer ∧
        (∀ earlier < index, event.pointers[earlier]? ≠ some pointer) ∧
        List.Forall₂ (fun moment batch => moment.time = batch.time ∧
          batch.coords[index]? = some moment.coords) (event.history index) event.batches) ∧
      (pointer ∉ event.pointers → event.indexOf? pointer = none) := by
  intro result
  have checked : result = checkTrace events := loadTrace_of_parsed readable parsed
  have loaded : result = .ok events ↔ ∀ event ∈ events, event.IsWellShaped := by
    rw [checked, ← Trace.fault?_eq_none_iff]
    unfold checkTrace
    cases Trace.fault? events <;> simp
  refine ⟨loaded, fun failed => ?_, fun event accepted pointer => ⟨fun listed => ?_, ?_⟩⟩
  · obtain ⟨⟨index, fault⟩, found⟩ := Option.ne_none_iff_exists'.mp
      (mt (loaded.trans Trace.fault?_eq_none_iff.symm).mpr failed)
    obtain ⟨before, event, after, split, rfl, earlier, faulty⟩ := Trace.fault?_eq_some_iff.mp found
    refine ⟨before, event, after, fault, split, earlier, faulty, ?_, rfl⟩
    rw [checked, checkTrace, found]
  · have shaped : event.IsWellShaped := by
      rcases accepted with ⟨all, member⟩ | own
      · exact loaded.mp all event member
      · exact (MotionEvent.check_eq_ok_iff.mp own).2
    obtain ⟨index, found⟩ := Option.ne_none_iff_exists'.mp
      (mt MotionEvent.indexOf?_eq_none_iff.mp (not_not.mpr listed))
    obtain ⟨here, first⟩ := MotionEvent.indexOf?_eq_some_iff.mp found
    exact ⟨index, found, here, first, shaped.history (List.getElem?_eq_some_iff.mp here).1⟩
  · exact MotionEvent.indexOf?_eq_none_iff.mpr

/-- The text of a contact of the pointers 3 and 7, where 3 is listed twice, and of a move of 3 with some
entries. -/
def strokeText (entries : String) : String :=
  "[[\"down\",[3,7,3],[[10,[[1,1],[9,9],[0,0]]],[18,[[2,2],[8,8],[0,0]]]]],[\"move\",[3],[[20,"
    ++ entries ++ "]]]]"

/-- That text with the entry of the move, and without it: two events with whole histories, or a failure
over the second one. -/
theorem loadTrace_isExact_stroke :
    let contact : MotionEvent Float := ⟨.down, [3, 7, 3],
      [⟨10, [⟨1, 1, 1⟩, ⟨9, 9, 1⟩, ⟨0, 0, 1⟩]⟩, ⟨18, [⟨2, 2, 1⟩, ⟨8, 8, 1⟩, ⟨0, 0, 1⟩]⟩]⟩
    let move (entries : List (Coords Float)) : MotionEvent Float := ⟨.move, [3], [⟨20, entries⟩]⟩
    loadTrace "t.json" (.ok (strokeText "[[4,4]]").toUTF8) = .ok [contact, move [⟨4, 4, 1⟩]] ∧
      (∃ index, contact.indexOf? 7 = some index ∧ contact.pointers[index]? = some 7 ∧
        (contact.history index).length = 2) ∧
      contact.indexOf? 5 = none ∧
      loadTrace "t.json" (.ok (strokeText "[]").toUTF8) =
        .error (.invalidEvent 1 (.pointerCountMismatch 1 0)) := by
  intro contact move
  have readable (entries : String) (given : entries = "[[4,4]]" ∨ entries = "[]") :
      FileContent.text (.ok (strokeText entries).toUTF8) = .ok (strokeText entries) := by
    rcases given with rfl | rfl <;> exact eq_ok_of_toOption (by decide +kernel)
  have whole : Trace.ofText (strokeText "[[4,4]]") = .ok [contact, move [⟨4, 4, 1⟩]] :=
    eq_ok_of_toOption (by decide +kernel)
  have broken : Trace.ofText (strokeText "[]") = .ok [contact, move []] :=
    eq_ok_of_toOption (by decide +kernel)
  obtain ⟨accepted, _, histories⟩ := loadTrace_isExact "t.json" (readable _ (.inl rfl)) whole
  obtain ⟨refused, rejected, _⟩ := loadTrace_isExact "t.json" (readable _ (.inr rfl)) broken
  have contactShaped : contact.IsWellShaped := MotionEvent.fault?_eq_none_iff.mp rfl
  have moveShaped : (move [⟨4, 4, 1⟩]).IsWellShaped := MotionEvent.fault?_eq_none_iff.mp rfl
  have misshapen : ¬(move []).IsWellShaped := fun shaped =>
    nomatch MotionEvent.fault?_eq_none_iff.mpr shaped
  have loaded := accepted.mpr (by simp [contactShaped, moveShaped])
  obtain ⟨index, found, here, _, complete⟩ := (histories contact (.inl ⟨loaded, by simp⟩) 7).1 (by decide)
  refine ⟨loaded, ⟨index, found, here, complete.length_eq⟩,
    (histories contact (.inl ⟨loaded, by simp⟩) 5).2 (by decide), ?_⟩
  obtain ⟨before, event, after, fault, split, earlier, faulty, failed, _⟩ :=
    rejected (mt refused.mp (by simp [misshapen]))
  rw [failed]
  match before with
  | [] =>
    obtain ⟨rfl, _⟩ := List.cons.inj split
    rw [← MotionEvent.fault?_eq_some_iff, MotionEvent.fault?_eq_none_iff.mpr contactShaped] at faulty
    cases faulty
  | [_] =>
    obtain ⟨_, same⟩ := List.cons.inj split
    obtain ⟨rfl, _⟩ := List.cons.inj same
    have mismatch : some (Fault.pointerCountMismatch 1 0) = some fault :=
      MotionEvent.fault?_eq_some_iff.mpr faulty
    rw [Option.some.inj mismatch]
    rfl
  | _ :: _ :: _ => simp at split

end PointerForecast
