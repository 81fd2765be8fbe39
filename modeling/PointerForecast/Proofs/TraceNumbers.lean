/-
**What is read from a trace are numbers.**

A coordinate may be infinite, since a number in a text can be too large for single precision. But it
is always a number: a decimal is a significand times or over a power of ten, and every such power is
neither zero nor infinite.

* `JsonNumeral.isOrdinary_powerOfTen`: **the powers of ten**.
* `JsonNumeral.isNaN_toSingle`: a number in a text is read as a number.
* `Yields`: properties of what an attempt gives, if it gives anything; they are passed on by
  sequences, lists and records (`Trace.yields_record`).
* `isNumeric_of_loadTrace`: **every coordinate of a trace is a number.**
-/

import PointerForecast.Loading
import PointerForecast.Proofs.Double.UnitInterval

namespace PointerForecast

open Double

/-! ### Numbers in a text -/

namespace JsonNumeral

open Float.Model (Format UnpackedFloat)
open Float.Model.UnpackedFloat

/-- Three decimal digits need no more room than ten binary ones. -/
theorem log2_ten_pow (k : Nat) : 3 * (10 ^ k).log2 ≤ 10 * k := by
  have cubed : 2 ^ (3 * (10 ^ k).log2) ≤ 2 ^ (10 * k) := calc
    2 ^ (3 * (10 ^ k).log2) = (2 ^ (10 ^ k).log2) ^ 3 := by rw [mul_comm, pow_mul]
    _ ≤ (10 ^ k) ^ 3 := Nat.pow_le_pow_left (Nat.log2_self_le (by positivity)) 3
    _ = 1000 ^ k := by rw [← pow_mul, mul_comm, pow_mul]; rfl
    _ ≤ 1024 ^ k := Nat.pow_le_pow_left (by decide) k
    _ = 2 ^ (10 * k) := (pow_mul 2 10 k).symm
  exact (Nat.pow_le_pow_iff_right Nat.one_lt_two).mp cubed

/-- Rounding a power of ten beyond the exact ones leaves it within the range of doubles. -/
theorem isOrdinary_powerOfTen_inexact {k : Nat} (inexact : 22 < k) (within : k < 307) :
    isOrdinary (powerOfTen k) = true := by
  have digits := log2_ten_pow k
  have wide : (2 ^ 53 * 10 ^ k).log2 = (10 ^ k).log2 + 53 := by
    rw [mul_comm, log2_mul_two_pow (by positivity)]
  obtain ⟨m, l, positive, full, most, least, rounded⟩ :=
    roundWithAccuracy_wide (m := 2 ^ 53 * 10 ^ k) (e := -53) (by omega) (by omega) .positive
  have scientific : ofScientific Format.binary64 1 k = .finite .positive m (-53 + l) positive := by
    have first : ¬ (k : Int) > 2 ^ Format.binary64.exponentBits := by show ¬ (k : Int) > 2 ^ 11; omega
    have second : ¬ (k : Int) < -(2 ^ Format.binary64.exponentBits + Nat.log2 1) := by
      show ¬ (k : Int) < -(2 ^ 11 + 0)
      omega
    rw [← rounded]
    unfold ofScientific
    rw [dif_neg one_ne_zero, if_neg first, if_neg second, if_pos (by omega)]
    rfl
  have unpacked : (powerOfTen k).toModel.unpack = .finite .positive m (-53 + l) positive := by
    have slow : powerOfTen k = .ofModel (.pack (ofScientific Format.binary64 1 k)) := by
      show Float.ofScientific 1 false k = _
      unfold Float.ofScientific
      rw [dif_neg (by omega)]
      rfl
    rw [slow, scientific]
    exact unpack_pack full (by omega) (by omega) _ _
  unfold isOrdinary
  rw [unpacked]

/-- **A power of ten that a double can hold is neither zero nor special.** -/
theorem isOrdinary_powerOfTen {k : Nat} (most : k ≤ maxPower) :
    isOrdinary (powerOfTen k) = true := by
  have first : ∀ k ≤ 22, isOrdinary (powerOfTen k) = true := by decide +kernel
  have last : isOrdinary (powerOfTen 307) = true ∧ isOrdinary (powerOfTen 308) = true := by
    decide +kernel
  unfold maxPower at most
  rcases Nat.lt_or_ge 22 k with inexact | exact'
  · rcases Nat.lt_or_ge k 307 with within | late
    · exact isOrdinary_powerOfTen_inexact inexact within
    · obtain rfl | rfl : k = 307 ∨ k = 308 := by omega
      · exact last.1
      · exact last.2
  · exact first k exact'

theorem isNaN_divide (value : Float) (exponent : Nat) :
    (divide value exponent).isNaN = value.isNaN := by
  fun_induction divide value exponent with
  | case1 value exponent fits => exact isNaN_div_ordinary (isOrdinary_powerOfTen fits)
  | case2 value exponent far zero => rfl
  | case3 value exponent far nonzero ih =>
    exact ih.trans (isNaN_div_ordinary (isOrdinary_powerOfTen le_rfl))

theorem isNaN_toFloat? {scaled : Scaled} {value : Float} (read : scaled.toFloat? = some value) :
    value.isNaN = false := by
  unfold Scaled.toFloat? at read
  dsimp only at read
  split at read
  · obtain rfl := Option.some.inj read
    rw [isNaN_divide]
    exact isNaN_ofNat _
  · split at read
    · rename_i fits
      obtain ⟨product, _⟩ := Option.filter_eq_some_iff.mp read
      obtain rfl := Option.some.inj product
      rw [isNaN_mul_ordinary (isOrdinary_powerOfTen fits)]
      exact isNaN_ofNat _
    · split at read
      · obtain rfl := Option.some.inj read
        exact isNaN_ofNat _
      · cases read

theorem isNaN_size? {numeral : JsonNumeral} {value : Float} (read : numeral.size? = some value) :
    value.isNaN = false := by
  unfold size? at read
  extract_lets whole scaled at read
  clear_value scaled
  split at read
  · exact isNaN_toFloat? read
  · rename_i negative digits _
    by_cases large : maxExponent < ofDigits 10 digits
    · rw [if_pos large] at read
      split at read
      · obtain rfl := Option.some.inj read
        rfl
      · cases read
    · rw [if_neg large] at read
      exact isNaN_toFloat? read

/-- **A number in a text is read as a number.** -/
theorem isNaN_toSingle {numeral : JsonNumeral} {number : JsonNumber}
    (read : numeral.value? = some number) : number.toSingle.isNaN = false := by
  have integer (value : Int) : (JsonNumber.integer value).toSingle.isNaN = false := by
    refine (isNaN_widenSingle _).trans ?_
    cases value with
    | ofNat n => exact isNaN_ofNat_single n
    | negSucc n => exact (isNaN_unpack_pack_neg _).trans (isNaN_ofNat_single _)
  unfold value? at read
  dsimp only at read
  split at read
  · obtain rfl := Option.some.inj read
    exact integer _
  · split at read
    · obtain rfl := Option.some.inj read
      exact integer _
    · obtain ⟨size, found, rfl⟩ := Option.map_eq_some_iff.mp read
      have number := isNaN_size? found
      show (roundSingle _).isNaN = false
      rw [isNaN_roundSingle]
      split
      · rw [isNaN_neg]
        exact number
      · exact number

end JsonNumeral

/-! ### What an attempt gives -/

theorem eq_ok_of_toOption {ε β : Type} {attempt : Except ε β} {value : β}
    (given : attempt.toOption = some value) : attempt = .ok value := by
  cases attempt with
  | error cause => cases given
  | ok other => exact congrArg Except.ok (Option.some.inj given)

/-- Holds of an attempt whose result, if there is one, has a property. -/
def Yields {ε β : Type} (P : β → Prop) (attempt : Except ε β) : Prop :=
  ∀ value, attempt = .ok value → P value

namespace Yields

variable {ε β γ : Type} {P : β → Prop} {Q : γ → Prop}

theorem ok {value : β} (holds : P value) : Yields P (.ok value : Except ε β) := by
  intro other same
  cases same
  exact holds

theorem error (cause : ε) : Yields P (.error cause : Except ε β) := nofun

theorem any {attempt : Except ε γ} : Yields (fun _ => True) attempt := fun _ _ => trivial

theorem bind {attempt : Except ε γ} (first : Yields Q attempt) {next : γ → Except ε β}
    (second : ∀ value, Q value → Yields P (next value)) : Yields P (attempt >>= next) := by
  cases attempt with
  | error cause => exact nofun
  | ok value => exact second value (first value rfl)

theorem map {attempt : Except ε γ} {f : γ → β}
    (yields : Yields (fun value => P (f value)) attempt) : Yields P (f <$> attempt) := by
  cases attempt with
  | error cause => exact nofun
  | ok value => exact ok (yields value rfl)

theorem mapError {ε' : Type} {attempt : Except ε β} (yields : Yields P attempt) {f : ε → ε'} :
    Yields P (attempt.mapError f) := by
  cases attempt with
  | error cause => exact nofun
  | ok value => exact ok (yields value rfl)

/-- A list is read item by item. -/
theorem mapM {f : γ → Except ε β} (items : List γ) (each : ∀ item ∈ items, Yields P (f item)) :
    Yields (fun values => ∀ value ∈ values, P value) (items.mapM f) := by
  induction items with
  | nil => exact ok nofun
  | cons item rest ih =>
    rw [List.mapM_cons]
    refine (each item List.mem_cons_self).bind fun value holds => ?_
    refine (ih fun other member => each other (List.mem_cons_of_mem _ member)).bind
      fun values others => ok ?_
    exact List.forall_mem_cons.mpr ⟨holds, others⟩

/-- What every step keeps holds at the end. -/
theorem foldlM {f : β → γ → Except ε β} {items : List γ}
    (step : ∀ state, P state → ∀ item ∈ items, Yields P (f state item)) {state : β}
    (start : P state) : Yields P (items.foldlM f state) := by
  induction items generalizing state with
  | nil => exact ok start
  | cons item rest ih =>
    rw [List.foldlM_cons]
    refine (step state start item List.mem_cons_self).bind fun next holds => ?_
    exact ih (fun state holds other member => step state holds other (List.mem_cons_of_mem _ member))
      holds

end Yields

/-! ### Records -/

namespace Trace

theorem yields_setEntry {ρ : Type} {P : ρ → Prop} {fields : List (Field ρ)}
    (each : ∀ field ∈ fields, ∀ draft, P draft → ∀ item, Yields P (field.2 draft item))
    {state : ρ × List String} (holds : P state.1) (entry : Option String × JsonValue) :
    Yields (fun next => P next.1) (setEntry fields state entry) := by
  unfold setEntry
  dsimp only
  split
  · exact .error _
  · rename_i key _
    split
    · exact .ok holds
    · rename_i set found
      obtain ⟨before, after, rfl, _⟩ := List.lookup_eq_some_iff.mp found
      split
      · exact .error _
      · refine (each (key, set) (by simp) state.1 holds entry.2).bind fun next kept => ?_
        exact .ok kept

/-- **A record keeps what setting each of its fields keeps.** -/
theorem yields_record {ρ : Type} {P : ρ → Prop} {fields : List (Field ρ)}
    (each : ∀ field ∈ fields, ∀ draft, P draft → ∀ item, Yields P (field.2 draft item))
    {blank : ρ} (start : P blank) (value : JsonValue) : Yields P (record fields blank value) := by
  unfold record
  split
  · refine (Yields.foldlM (fun draft holds pair member => ?_) start).bind fun draft holds => ?_
    · obtain ⟨field, item⟩ := pair
      exact each field (List.of_mem_zip member).1 draft holds item
    · split
      · exact .error _
      · exact .ok holds
  · refine (Yields.foldlM (P := fun state => P state.1) (fun state holds entry _ => ?_) start).bind
      fun state holds => ?_
    · exact yields_setEntry each holds entry
    · exact .ok holds
  · exact .error _

end Trace

/-! ### Traces -/

/-- Holds of coordinates that are numbers. -/
def Coords.IsNumeric (coords : Coords Float) : Prop :=
  coords.x.isNaN = false ∧ coords.y.isNaN = false ∧ coords.pressure.isNaN = false

/-- Holds of an event whose coordinates are numbers. -/
def MotionEvent.IsNumeric (event : MotionEvent Float) : Prop :=
  ∀ batch ∈ event.batches, ∀ coords ∈ batch.coords, coords.IsNumeric

namespace Trace

theorem yields_coordinate (value : JsonValue) :
    Yields (fun number => number.isNaN = false) (coordinate value) := by
  refine .map ?_
  unfold number
  split
  · split
    · rename_i numeral number read
      exact .ok (JsonNumeral.isNaN_toSingle read)
    · exact .error _
  · exact .error _

/-- A field that was given has the property of its values. -/
theorem yields_required {β : Type} {P : β → Prop} (name : String) {given : Option β}
    (holds : given.elim True P) : Yields P (required name given) := by
  cases given with
  | none => exact .error _
  | some value => exact .ok holds

theorem yields_coords (value : JsonValue) : Yields Coords.IsNumeric (coords value) := by
  let given (field : Option Float) : Prop := field.elim True (·.isNaN = false)
  let kept (draft : Coords (Option Float)) : Prop :=
    given draft.x ∧ given draft.y ∧ given draft.pressure
  unfold coords
  refine (yields_record (P := kept) ?_ ?_ value).bind fun draft holds => ?_
  · refine List.forall_mem_cons.mpr ⟨fun draft holds item => ?_, List.forall_mem_cons.mpr
      ⟨fun draft holds item => ?_, List.forall_mem_cons.mpr ⟨fun draft holds item => ?_, nofun⟩⟩⟩
    · exact (yields_coordinate item).bind fun x number => .ok ⟨number, holds.2⟩
    · exact (yields_coordinate item).bind fun y number => .ok ⟨holds.1, number, holds.2.2⟩
    · exact (yields_coordinate item).bind fun pressure number => .ok ⟨holds.1, holds.2.1, number⟩
  · exact ⟨trivial, trivial, trivial⟩
  · refine (yields_required "x" holds.1).bind fun x first => ?_
    refine (yields_required "y" holds.2.1).bind fun y second => .ok ⟨first, second, ?_⟩
    have third : given draft.pressure := holds.2.2
    cases pressure : draft.pressure with
    | none => exact not_isNaN_one
    | some pressure' => rw [pressure] at third; exact third

theorem yields_batch (value : JsonValue) :
    Yields (fun batch => ∀ coords ∈ batch.coords, coords.IsNumeric) (batch value) := by
  let kept (draft : Option Timestamp × Option (List (Coords Float))) : Prop :=
    draft.2.elim True fun entries => ∀ coords ∈ entries, coords.IsNumeric
  unfold batch
  refine (yields_record (P := kept) ?_ ?_ value).bind fun draft holds => ?_
  · refine List.forall_mem_cons.mpr ⟨fun draft holds item => ?_, List.forall_mem_cons.mpr
      ⟨fun draft holds item => ?_, nofun⟩⟩
    · exact Yields.any.bind fun time _ => .ok holds
    · exact Yields.any.bind fun values _ =>
        (Yields.mapM values fun value _ => yields_coords value).bind fun entries numeric =>
          .ok numeric
  · trivial
  · exact Yields.any.bind fun time _ =>
      (yields_required "coords" holds).bind fun entries numeric => .ok numeric

theorem yields_event (value : JsonValue) : Yields MotionEvent.IsNumeric (event value) := by
  let kept (draft : EventDraft) : Prop := draft.batches.elim True fun batches =>
    ∀ batch ∈ batches, ∀ coords ∈ batch.coords, coords.IsNumeric
  unfold event
  refine (yields_record (P := kept) ?_ ?_ value).bind fun draft holds => ?_
  · refine List.forall_mem_cons.mpr ⟨fun draft holds item => ?_, List.forall_mem_cons.mpr
      ⟨fun draft holds item => ?_, List.forall_mem_cons.mpr ⟨fun draft holds item => ?_, nofun⟩⟩⟩
    · exact Yields.any.bind fun action _ => .ok holds
    · exact Yields.any.bind fun values _ => Yields.any.bind fun pointers _ => .ok holds
    · exact Yields.any.bind fun values _ =>
        (Yields.mapM values fun value _ => yields_batch value).bind fun batches numeric =>
          .ok numeric
  · trivial
  · exact Yields.any.bind fun pointers _ =>
      (yields_required "samples" holds).bind fun batches numeric => .ok numeric

theorem yields_ofText (text : String) :
    Yields (fun events => ∀ event ∈ events, event.IsNumeric) (ofText text) := by
  unfold ofText
  refine Yields.any.bind fun values _ => ?_
  refine (Yields.mapM values fun value _ => yields_event value).bind fun events numeric => ?_
  split
  · exact .ok numeric
  · exact .error _

end Trace

/-- **Every coordinate of a trace is a number**, if not a finite one. -/
theorem isNumeric_of_loadTrace {path : String} {content : FileContent}
    {events : List (MotionEvent Float)} (loaded : loadTrace path content = .ok events) :
    ∀ event ∈ events, event.IsNumeric := by
  have yields : Yields (fun events => ∀ event ∈ events, event.IsNumeric)
      (loadTrace path content) := by
    unfold loadTrace
    refine Yields.any.bind fun text _ => ?_
    refine (Yields.mapError (Trace.yields_ofText text)).bind fun events numeric => ?_
    unfold checkTrace
    split
    · exact .error _
    · exact .ok numeric
  exact yields events loaded

end PointerForecast
