/-
**The report rate in fixed storage.**

A session knows its report rate by the list of the differences collected. Where storage is fixed there
is a row of slots instead, as many as differences are averaged, the number of those that are filled,
and the mean of what they hold, computed anew with every difference. A difference is written before it
is known whether it was the last one to be collected, so only that number keeps the write inside the
row. It does: a row whose last slot is filled is given up in the same call, for the mean alone. A rate
that is given takes the place of either, at any time.

* `RateCall`: what an estimate is told; `ReportRate.foldl_tell`: **what is known after any calls.**
* `StoredRate`: what is stored; `StoredRate.tell?`: a call, which fails outside the slots, and
  `StoredRate.tell?_eq_none_iff`: **when it does.**
* `StoredRate.listed`, `StoredRate.IsSound`: the differences stored as a list, and the invariant: there
  is room for one more, and the mean is theirs.
* `StoredRate.tell?_of_isSound` is **one call**, and `StoredRate.foldlM_tell?_of_isSound` **any calls.**
* `StoredRate.after?_of_few`, `StoredRate.after?_of_enough`, `StoredRate.after?_of_given`: what is stored
  while differences are collected, once there are enough, and once a rate was given.
* `StoredRate.storage_isSufficient`: **what is stored after any calls.**
-/

import PointerForecast.Proofs.Readiness

namespace PointerForecast

/-! ### Calls -/

/-- What the estimate of a report rate is told. -/
inductive RateCall (α : Type) where
  /-- Two samples were so many milliseconds apart. -/
  | record (delta : α)
  /-- Samples come at this rate. -/
  | override (rate : α)

namespace RateCall

variable {α : Type}

/-- The difference that a call tells. -/
def delta? : RateCall α → Option α
  | .record delta => some delta
  | .override _ => none

/-- The rate that a call gives. -/
def rate? : RateCall α → Option α
  | .record _ => none
  | .override rate => some rate

/-- The differences told by some calls, in order. -/
def deltas (calls : List (RateCall α)) : List α := calls.filterMap delta?

/-- The rate given last. -/
def latestRate? (calls : List (RateCall α)) : Option α := (calls.filterMap rate?).getLast?

/-- Differences give no rate. -/
theorem latestRate?_append_record (calls : List (RateCall α)) (later : List α) :
    latestRate? (calls ++ later.map .record) = latestRate? calls := by
  have silent : (later.map record).filterMap rate? = [] := by
    rw [List.filterMap_map]
    exact List.filterMap_eq_nil_iff.mpr fun _ _ => rfl
  unfold latestRate?
  rw [List.filterMap_append, silent, List.append_nil]

theorem latestRate?_append_override (calls : List (RateCall α)) (rate : α) :
    latestRate? (calls ++ [.override rate]) = some rate := by
  unfold latestRate?
  rw [List.filterMap_append]
  exact List.getLast?_concat

end RateCall

variable {α : Type} [Scalar α]

theorem Scalar.mean_append_singleton (before : List α) (last : α) :
    mean (before ++ [last]) =
      sum (before ++ [last]) / (((before.length + 1 : Nat) : Int) : α) := by
  have length : (before ++ [last]).length = before.length + 1 := List.length_append
  rw [← length]
  cases before <;> rfl

namespace ReportRate

/-- The rate after a call. -/
def tell (rate : ReportRate α) : RateCall α → ReportRate α
  | .record delta => rate.record delta
  | .override given => rate.override given

/-- **What is known after any calls**: the rate given last, or else what the differences show. -/
theorem foldl_tell (initial : ReportRate α) (calls : List (RateCall α)) :
    calls.foldl tell initial =
      (RateCall.latestRate? calls).elim ((RateCall.deltas calls).foldl record initial) .overridden := by
  induction calls using List.reverseRecOn with
  | nil => rfl
  | append_singleton before call ih =>
    rw [List.foldl_append, ih]
    cases call with
    | record delta =>
      have told : RateCall.deltas (before ++ [.record delta]) = RateCall.deltas before ++ [delta] :=
        List.filterMap_append
      have latest : RateCall.latestRate? (before ++ [.record delta]) = RateCall.latestRate? before :=
        RateCall.latestRate?_append_record before [delta]
      rw [told, latest, List.foldl_append]
      cases RateCall.latestRate? before <;> rfl
    | override rate =>
      rw [RateCall.latestRate?_append_override]
      rfl

/-- The mean of the first differences, of which there may be none. -/
theorem mean_take_capacity (deltas : List α) :
    Scalar.mean (deltas.take capacity) = if deltas.length = 0 then 0
      else Scalar.sum (deltas.take capacity) / ((min deltas.length capacity : Nat) : Int) := by
  rw [min_comm, ← List.length_take]
  cases deltas <;> rfl

end ReportRate

/-! ### Slots -/

/-- What is stored about the time between two reports, in milliseconds. -/
inductive StoredRate (α : Type) where
  /-- Differences are still collected: so many of the slots are filled, oldest first, and the mean is
  that of what they hold. -/
  | accumulating (slots : Vector α ReportRate.capacity) (count : Nat) (mean : α)
  /-- All slots were filled, and the mean is kept. -/
  | capped (mean : α)
  /-- The rate was given. -/
  | overridden (rate : α)
deriving DecidableEq

namespace StoredRate

open ReportRate (capacity)

section Slots

variable {β : Type} {size : Nat}

/-- The row with one slot written; there is no slot beyond the last. -/
def write? (slots : Vector β size) (index : Nat) (value : β) : Option (Vector β size) :=
  if inside : index < size then some (slots.set index value) else none

/-- What the first slots hold. -/
def front (slots : Vector β size) (count : Nat) : List β := slots.toList.take count

/-- What the first slots hold; there are no more than all of them. -/
def front? (slots : Vector β size) (count : Nat) : Option (List β) :=
  if count ≤ size then some (front slots count) else none

variable {slots : Vector β size} {count : Nat}

theorem length_front (fits : count ≤ size) : (front slots count).length = count := by
  unfold front
  rw [List.length_take, Vector.length_toList, Nat.min_eq_left fits]

/-- What is written behind the first slots comes after what they hold. -/
theorem front_set (inside : count < size) (value : β) :
    front (slots.set count value) (count + 1) = front slots count ++ [value] := by
  have written : count < (slots.toList.set count value).length := by
    rwa [List.length_set, Vector.length_toList]
  unfold front
  rw [Vector.toList_set, List.take_succ_eq_append_getElem written, List.take_set_of_le le_rfl,
    List.getElem_set_self]

end Slots

/-- Nothing observed yet. -/
def unknown : StoredRate α := .accumulating (.replicate capacity 0) 0 0

/-- Takes one more difference into account, unless the rate is settled. It is written into the slot
behind those that are filled, and the mean is computed of all that are filled then. -/
def record? (delta : α) : StoredRate α → Option (StoredRate α)
  | .accumulating slots count _ => do
    let written ← write? slots count delta
    let filled ← front? written (count + 1)
    let mean := Scalar.sum filled / (((count + 1 : Nat) : Int) : α)
    return if count + 1 = capacity then .capped mean else .accumulating written (count + 1) mean
  | settled => some settled

/-- The rate after a call, unless the call leaves the slots. -/
def tell? (stored : StoredRate α) : RateCall α → Option (StoredRate α)
  | .record delta => stored.record? delta
  | .override rate => some (.overridden rate)

/-- What is stored after some calls, none of which leaves the slots. -/
def after? (calls : List (RateCall α)) : Option (StoredRate α) := calls.foldlM tell? unknown

/-- The rate in milliseconds. -/
def milliseconds : StoredRate α → α
  | .accumulating _ _ mean => mean
  | .capped mean => mean
  | .overridden rate => rate

/-- How many differences the estimate rests on. -/
def sampleCount : StoredRate α → Nat
  | .accumulating _ count _ => count
  | .capped _ => capacity
  | .overridden _ => 0

/-- Holds once a rate was given. -/
def isOverridden : StoredRate α → Bool
  | .overridden _ => true
  | _ => false

/-! ### One call -/

/-- One more difference, where there is a slot for it. -/
theorem record?_of_lt (slots : Vector α capacity) {count : Nat} (inside : count < capacity)
    (mean delta : α) :
    let filled := front slots count ++ [delta]
    (accumulating slots count mean).record? delta =
      some (if count + 1 = capacity then .capped (Scalar.mean filled)
        else .accumulating (slots.set count delta) (count + 1) (Scalar.mean filled)) := by
  intro filled
  have written : write? slots count delta = some (slots.set count delta) := dif_pos inside
  have collected : front? (slots.set count delta) (count + 1) = some filled :=
    (if_pos (Nat.succ_le_of_lt inside)).trans (congrArg some (front_set inside delta))
  have divided : Scalar.sum filled / (((count + 1 : Nat) : Int) : α) = Scalar.mean filled := by
    rw [Scalar.mean_append_singleton, length_front inside.le]
  show (write? slots count delta >>= _) = _
  rw [written]
  show (front? (slots.set count delta) (count + 1) >>= _) = _
  rw [collected, ← divided]
  rfl

/-- No difference, where there is no slot for it. -/
theorem record?_of_le (slots : Vector α capacity) {count : Nat} (outside : capacity ≤ count)
    (mean delta : α) : (accumulating slots count mean).record? delta = none := by
  have refused : write? slots count delta = none := dif_neg (Nat.not_lt.mpr outside)
  show (write? slots count delta >>= _) = _
  rw [refused]
  rfl

/-- **When a call leaves the slots**: a difference does, once none is left. -/
theorem tell?_eq_none_iff {stored : StoredRate α} {call : RateCall α} :
    stored.tell? call = none ↔ call.delta?.isSome = true ∧
      ∃ slots count mean, stored = .accumulating slots count mean ∧ capacity ≤ count := by
  cases call with
  | override rate => simp [tell?, RateCall.delta?]
  | record delta =>
    cases stored with
    | accumulating slots count mean =>
      rcases Nat.lt_or_ge count capacity with inside | outside
      · simp [tell?, record?_of_lt slots inside, inside]
      · simp [tell?, record?_of_le slots outside, RateCall.delta?, outside]
    | capped mean => simp [tell?, record?]
    | overridden rate => simp [tell?, record?]

/-- The rate as the list of the differences stored. -/
def listed : StoredRate α → ReportRate α
  | .accumulating slots count _ => .accumulating (front slots count)
  | .capped mean => .capped mean
  | .overridden rate => .overridden rate

/-- Holds if there is a slot for one more difference, as long as differences are collected, and the
mean is that of the differences stored. -/
def IsSound : StoredRate α → Prop
  | .accumulating slots count mean =>
    count < capacity ∧ mean = Scalar.mean (front slots count)
  | _ => True

theorem isSound_unknown : (unknown : StoredRate α).IsSound :=
  ⟨show 0 < capacity from Nat.zero_lt_succ _, rfl⟩

/-- **One call** stays inside the slots, and does to what is stored what it does to the list. -/
theorem tell?_of_isSound {stored : StoredRate α} (sound : stored.IsSound) (call : RateCall α) :
    ∃ next, stored.tell? call = some next ∧ next.IsSound ∧ next.listed = stored.listed.tell call := by
  cases call with
  | override rate => exact ⟨.overridden rate, rfl, trivial, rfl⟩
  | record delta =>
    cases stored with
    | capped mean => exact ⟨.capped mean, rfl, trivial, rfl⟩
    | overridden rate => exact ⟨.overridden rate, rfl, trivial, rfl⟩
    | accumulating slots count mean =>
      obtain ⟨inside, -⟩ := sound
      refine ⟨_, record?_of_lt slots inside mean delta, ?_⟩
      show _ ∧ _ = (ReportRate.accumulating (front slots count)).record delta
      rw [ReportRate.record_accumulating, length_front inside.le]
      by_cases last : count + 1 = capacity
      · rw [if_pos last, if_pos last]
        exact ⟨trivial, rfl⟩
      · have room : count + 1 < capacity := by omega
        rw [if_neg last, if_neg last]
        refine ⟨⟨room, ?_⟩, ?_⟩
        · rw [front_set inside]
        · exact congrArg ReportRate.accumulating (front_set inside delta)

/-! ### Any calls -/

/-- **Any calls** stay inside the slots, and do to what is stored what they do to the list. -/
theorem foldlM_tell?_of_isSound {stored : StoredRate α} (sound : stored.IsSound)
    (calls : List (RateCall α)) :
    ∃ after, calls.foldlM tell? stored = some after ∧ after.IsSound ∧
      after.listed = calls.foldl ReportRate.tell stored.listed := by
  induction calls generalizing stored with
  | nil => exact ⟨stored, rfl, sound, rfl⟩
  | cons call rest ih =>
    obtain ⟨next, called, kept, listed⟩ := tell?_of_isSound sound call
    obtain ⟨after, ran, sound', same⟩ := ih kept
    refine ⟨after, ?_, sound', ?_⟩
    · rw [List.foldlM_cons, called]
      exact ran
    · rw [same, listed, List.foldl_cons]

/-! ### What is stored -/

section

variable {stored : StoredRate α}

theorem milliseconds_listed (sound : stored.IsSound) :
    stored.listed.milliseconds = stored.milliseconds := by
  cases stored with
  | accumulating slots count mean => exact sound.2.symm
  | capped mean => rfl
  | overridden rate => rfl

theorem sampleCount_listed (sound : stored.IsSound) :
    stored.listed.sampleCount = stored.sampleCount := by
  cases stored with
  | accumulating slots count mean => exact length_front sound.1.le
  | capped mean => rfl
  | overridden rate => rfl

omit [Scalar α] in
theorem isOverridden_listed (stored : StoredRate α) :
    stored.listed.isOverridden = stored.isOverridden := by
  cases stored <;> rfl

omit [Scalar α] in
theorem listed_eq_capped_iff {mean : α} : stored.listed = .capped mean ↔ stored = .capped mean := by
  cases stored <;> simp [listed]

omit [Scalar α] in
theorem listed_eq_overridden_iff {rate : α} :
    stored.listed = .overridden rate ↔ stored = .overridden rate := by
  cases stored <;> simp [listed]

/-- Where differences are collected, they fill the first slots. -/
theorem eq_of_listed_accumulating (sound : stored.IsSound) {deltas : List α}
    (listed : stored.listed = .accumulating deltas) :
    ∃ slots, stored = .accumulating slots deltas.length (Scalar.mean deltas) ∧
      front slots deltas.length = deltas := by
  cases stored with
  | accumulating slots count mean =>
    obtain ⟨inside, rfl⟩ := sound
    obtain rfl := ReportRate.accumulating.inj listed
    rw [length_front inside.le]
    exact ⟨slots, rfl, rfl⟩
  | capped mean => cases listed
  | overridden rate => cases listed

end

section

variable {calls : List (RateCall α)}

/-- As long as no rate was given, what is stored is what the differences show. -/
theorem exists_after?_of_ungiven (ungiven : RateCall.latestRate? calls = none) :
    ∃ stored, after? calls = some stored ∧ stored.IsSound ∧
      stored.listed = (RateCall.deltas calls).foldl ReportRate.record .unknown := by
  obtain ⟨stored, ran, sound, listed⟩ := foldlM_tell?_of_isSound isSound_unknown calls
  refine ⟨stored, ran, sound, ?_⟩
  exact listed.trans ((ReportRate.foldl_tell .unknown calls).trans (by rw [ungiven]; rfl))

/-- A few differences fill the first slots. -/
theorem after?_of_few (ungiven : RateCall.latestRate? calls = none)
    (few : (RateCall.deltas calls).length < capacity) :
    ∃ slots, front slots (RateCall.deltas calls).length = RateCall.deltas calls ∧
      after? calls = some (.accumulating slots (RateCall.deltas calls).length
        (Scalar.mean (RateCall.deltas calls))) := by
  obtain ⟨stored, ran, sound, listed⟩ := exists_after?_of_ungiven ungiven
  rw [ReportRate.foldl_record, if_pos few] at listed
  obtain ⟨slots, rfl, filled⟩ := eq_of_listed_accumulating sound listed
  exact ⟨slots, filled, ran⟩

/-- Of enough differences, the mean of the first ones is stored. -/
theorem after?_of_enough (ungiven : RateCall.latestRate? calls = none)
    (enough : capacity ≤ (RateCall.deltas calls).length) :
    after? calls = some (.capped (Scalar.mean ((RateCall.deltas calls).take capacity))) := by
  obtain ⟨stored, ran, -, listed⟩ := exists_after?_of_ungiven ungiven
  rw [ReportRate.foldl_record, if_neg (Nat.not_lt.mpr enough), listed_eq_capped_iff] at listed
  exact listed ▸ ran

/-- The rate given last is stored. -/
theorem after?_of_given {rate : α} (given : RateCall.latestRate? calls = some rate) :
    after? calls = some (.overridden rate) := by
  obtain ⟨stored, ran, -, listed⟩ := foldlM_tell?_of_isSound isSound_unknown calls
  have known := listed.trans (ReportRate.foldl_tell .unknown calls)
  rw [given, Option.elim_some, listed_eq_overridden_iff] at known
  exact known ▸ ran

end

/-- **Fixed storage suffices.** Whatever an estimate is told, and in whatever order, no call leaves the
slots, and what is stored is what the list of differences says: the rate, how many differences it rests
on, and whether it was given.

* As long as no rate was given, the differences told fill the first slots in order, with their mean beside
  them, if they are fewer than twenty. Otherwise the mean of the first twenty alone is stored. It is their
  sum from left to right divided by their number, and zero without any.
* Once a rate was given, the one given last is stored. It rests on no difference, and no later one
  changes it.

The differences and the rates are any numbers, in double precision also infinite ones and what is not a
number. -/
theorem storage_isSufficient (calls : List (RateCall α)) :
    let deltas := RateCall.deltas calls
    let count := min deltas.length 20
    let mean : α := if deltas.length = 0 then 0
      else Scalar.sum (deltas.take 20) / ((count : Nat) : Int)
    ∃ stored : StoredRate α, after? calls = some stored ∧
      stored.listed = calls.foldl ReportRate.tell .unknown ∧
      stored.listed.milliseconds = stored.milliseconds ∧
      stored.listed.sampleCount = stored.sampleCount ∧
      stored.listed.isOverridden = stored.isOverridden ∧
      match RateCall.latestRate? calls with
      | none => stored.milliseconds = mean ∧ stored.sampleCount = count ∧
        if deltas.length < 20 then
          ∃ slots, stored = .accumulating slots deltas.length mean ∧
            slots.toList.take deltas.length = deltas
        else stored = .capped mean
      | some rate => stored = .overridden rate ∧ stored.milliseconds = rate ∧ stored.sampleCount = 0 ∧
        ∀ later : List α, after? (calls ++ later.map .record) = some stored := by
  intro deltas count mean
  have mean_eq : Scalar.mean (deltas.take 20) = mean := ReportRate.mean_take_capacity deltas
  obtain ⟨stored, ran, sound, listed⟩ := foldlM_tell?_of_isSound isSound_unknown calls
  refine ⟨stored, ran, listed, milliseconds_listed sound, sampleCount_listed sound,
    isOverridden_listed stored, ?_⟩
  cases given : RateCall.latestRate? calls with
  | none =>
    by_cases few : deltas.length < 20
    · obtain ⟨slots, filled, ran'⟩ := after?_of_few given few
      obtain rfl := Option.some.inj (ran.symm.trans ran')
      have whole : Scalar.mean deltas = mean := by rw [← mean_eq, List.take_of_length_le few.le]
      rw [if_pos few]
      exact ⟨whole, (min_eq_left few.le).symm, slots, congrArg _ whole, filled⟩
    · have enough : 20 ≤ deltas.length := Nat.not_lt.mp few
      obtain rfl := Option.some.inj (ran.symm.trans (after?_of_enough given enough))
      rw [if_neg few]
      exact ⟨mean_eq, (min_eq_right enough).symm, congrArg _ mean_eq⟩
  | some rate =>
    obtain rfl := Option.some.inj (ran.symm.trans (after?_of_given given))
    refine ⟨rfl, rfl, rfl, fun later => after?_of_given ?_⟩
    rw [RateCall.latestRate?_append_record, given]

/-- The twentieth difference settles the rate, and the one after it is not stored anywhere. -/
example : after? (List.replicate 20 (.record 4) ++ [.record 100]) =
    some (.capped 4 : StoredRate Float) := by
  decide +kernel

end StoredRate

end PointerForecast
