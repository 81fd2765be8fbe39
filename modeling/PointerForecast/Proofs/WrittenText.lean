/-
**The characters of what is written.**

Whatever its layout, a finite number is written with digits, signs, a point and the mark of an
exponent. The records of a report are made of such numbers and of names without line breaks, so each
of them stands in one line.

* `isNumberChar`, `NumberLayout.isNumberChar_write`: **the characters of a finite number.**
* `messageNumber_cases`: a number in a message.
* `IsLine`: a text without a line break; `Report.isLine_of_mem_lines`: **the records of a report.**
-/

import PointerForecast.ReportText

namespace PointerForecast

/-! ### Numbers -/

/-- Holds of the characters that a finite number is written with. -/
def isNumberChar (c : Char) : Bool := c.isDigit || ['-', '+', '.', 'e'].contains c

namespace NumberLayout

theorem isDigit_digitText (number : Nat) : ∀ c ∈ digitText number, c.isDigit = true := by
  intro c member
  exact Nat.isDigit_of_mem_toDigits (by decide) (by decide) member

theorem isNumberChar_digitText (number : Nat) :
    ∀ c ∈ digitText number, isNumberChar c = true := by
  intro c member
  unfold isNumberChar
  rw [isDigit_digitText number c member, Bool.true_or]

theorem isNumberChar_replicate (count : Nat) :
    ∀ c ∈ List.replicate count '0', isNumberChar c = true := by
  intro c member
  rw [(List.mem_replicate.mp member).2]
  rfl

theorem isNumberChar_fixed (layout : NumberLayout) (decimal : Decimal) :
    ∀ c ∈ layout.fixed decimal, isNumberChar c = true := by
  have digits := isNumberChar_digitText decimal.digits
  unfold fixed
  extract_lets text places padded whole
  split
  · refine List.forall_mem_append.mpr ⟨List.forall_mem_append.mpr ⟨digits, ?_⟩, ?_⟩
    · exact isNumberChar_replicate _
    · split
      · exact List.forall_mem_cons.mpr ⟨rfl, List.forall_mem_singleton.mpr rfl⟩
      · exact List.forall_mem_nil _
  · have all : ∀ c ∈ padded, isNumberChar c = true :=
      List.forall_mem_append.mpr ⟨isNumberChar_replicate _, digits⟩
    refine List.forall_mem_append.mpr ⟨fun c before => ?_, List.forall_mem_cons.mpr ⟨rfl, ?_⟩⟩
    · exact all c (List.mem_of_mem_take before)
    · exact fun c after => all c (List.mem_of_mem_drop after)

theorem isNumberChar_scientific (decimal : Decimal) (leading : Int) :
    ∀ c ∈ scientific decimal leading, isNumberChar c = true := by
  have digits := isNumberChar_digitText decimal.digits
  unfold scientific
  refine List.forall_mem_append.mpr ⟨?_, List.forall_mem_cons.mpr ⟨rfl, List.forall_mem_cons.mpr
    ⟨?_, isNumberChar_digitText _⟩⟩⟩
  · split
    · rename_i single
      rwa [single] at digits
    · rename_i first rest _ several
      rw [several] at digits
      obtain ⟨leads, follow⟩ := List.forall_mem_cons.mp digits
      exact List.forall_mem_cons.mpr ⟨leads, List.forall_mem_cons.mpr ⟨rfl, follow⟩⟩
    · exact List.forall_mem_nil _
  · split <;> rfl

/-- **The characters of a number**, as any layout writes it. -/
theorem isNumberChar_write (layout : NumberLayout) (negative : Bool) (decimal : Decimal) :
    ∀ c ∈ (layout.write negative decimal).toList, isNumberChar c = true := by
  have size (isFixed : Bool) (leading : Int) :
      ∀ c ∈ if isFixed then layout.fixed decimal else scientific decimal leading,
        isNumberChar c = true := by
    cases isFixed with
    | true => exact isNumberChar_fixed layout decimal
    | false => exact isNumberChar_scientific decimal leading
  unfold write
  dsimp only
  rw [String.toList_ofList]
  split
  · exact List.forall_mem_cons.mpr ⟨rfl, size _ _⟩
  · exact size _ _

end NumberLayout

theorem toList_toString_nat (number : Nat) :
    (toString number).toList = NumberLayout.digitText number := by
  rw [Nat.toString_eq_ofList_toDigits, String.toList_ofList]
  rfl

theorem isNumberChar_toString_nat (number : Nat) :
    ∀ c ∈ (toString number).toList, isNumberChar c = true := by
  rw [toList_toString_nat]
  exact NumberLayout.isNumberChar_digitText number

theorem isNumberChar_toString_int (number : Int) :
    ∀ c ∈ (toString number).toList, isNumberChar c = true := by
  rw [Int.toString_eq_repr, Int.repr_eq_if]
  split
  · exact isNumberChar_toString_nat _
  · rw [String.toList_append]
    exact List.forall_mem_append.mpr
      ⟨List.forall_mem_singleton.mpr rfl, isNumberChar_toString_nat _⟩

/-- A number in a message is written as a number, or it is one of three words. -/
theorem messageNumber_cases (value : Float) :
    (∀ c ∈ (messageNumber value).toList, isNumberChar c = true) ∨
      messageNumber value ∈ ["NaN", "inf", "-inf"] := by
  unfold messageNumber
  split
  · exact Or.inr (by decide)
  · rename_i negative _
    cases negative <;> exact Or.inr (by decide)
  · exact Or.inl (NumberLayout.isNumberChar_write _ _ _)

/-! ### Lines -/

/-- Holds of a text without a line break. -/
def IsLine (text : String) : Prop := '\n' ∉ text.toList

instance (text : String) : Decidable (IsLine text) :=
  inferInstanceAs (Decidable ('\n' ∉ text.toList))

namespace IsLine

theorem append {first second : String} (one : IsLine first) (two : IsLine second) :
    IsLine (first ++ second) := by
  unfold IsLine
  rw [String.toList_append]
  exact List.not_mem_append one two

theorem of_isNumberChar {text : String}
    (number : ∀ c ∈ text.toList, isNumberChar c = true) : IsLine text := by
  intro member
  have allowed : isNumberChar '\n' = true := number '\n' member
  exact absurd allowed (by decide)

theorem intercalate {separator : String} (between : IsLine separator) {texts : List String}
    (each : ∀ text ∈ texts, IsLine text) : IsLine (separator.intercalate texts) := by
  induction texts with
  | nil => exact List.not_mem_nil
  | cons text rest ih =>
    obtain ⟨first, others⟩ := List.forall_mem_cons.mp each
    by_cases last : rest = []
    · rw [last, String.intercalate_singleton]
      exact first
    · rw [String.intercalate_cons_of_ne_nil last]
      exact (first.append between).append (ih others)

theorem recordText {fields : List (String × String)}
    (names : ∀ name ∈ fields.map Prod.fst, IsLine name)
    (values : ∀ value ∈ fields.map Prod.snd, IsLine value) : IsLine (recordText fields) := by
  refine (append (by decide) (intercalate (by decide) ?_)).append (by decide)
  intro text member
  obtain ⟨field, inside, rfl⟩ := List.mem_map.mp member
  have name := names field.1 (List.mem_map_of_mem inside)
  have value := values field.2 (List.mem_map_of_mem inside)
  exact ((append (by decide) name).append (by decide)).append value

theorem listText {items : List String} (each : ∀ item ∈ items, IsLine item) :
    IsLine (listText items) :=
  (append (by decide) (intercalate (by decide) each)).append (by decide)

theorem optionText {β : Type} {text : β → String} (each : ∀ value, IsLine (text value))
    (value? : Option β) : IsLine (optionText text value?) := by
  cases value? with
  | none => exact (by decide : IsLine "null")
  | some value => exact each value

theorem finite? (layout : NumberLayout) (value : BinaryValue) :
    IsLine ((layout.finite? value).getD "null") := by
  cases value with
  | nan => exact (by decide : IsLine "null")
  | infinite negative => exact (by decide : IsLine "null")
  | finite negative size => exact of_isNumberChar (layout.isNumberChar_write negative _)

end IsLine

theorem Coords.isLine_text (coords : Coords Float) : IsLine coords.text := by
  refine IsLine.recordText ?_ ?_
  · show ∀ name ∈ ["x", "y", "pressure"], IsLine name
    decide
  · simp only [List.map_cons, List.map_nil, List.forall_mem_cons, IsLine.finite?, true_and]
    exact List.forall_mem_nil _

theorem Prediction.isLine_text (prediction : Prediction Float) : IsLine prediction.text := by
  refine IsLine.recordText ?_ ?_
  · show ∀ name ∈ ["pointer_id", "samples"], IsLine name
    decide
  · refine List.forall_mem_cons.mpr ⟨.of_isNumberChar (isNumberChar_toString_int _), ?_⟩
    refine List.forall_mem_singleton.mpr (.listText fun text member => ?_)
    obtain ⟨sample, _, rfl⟩ := List.mem_map.mp member
    exact sample.isLine_text

theorem Frame.isLine_text (frame : Frame Float) : IsLine frame.text := by
  refine IsLine.recordText ?_ ?_
  · show ∀ name ∈ ["time_ms", "handled", "prediction"], IsLine name
    decide
  · refine List.forall_mem_cons.mpr ⟨?_, List.forall_mem_cons.mpr ⟨?_, ?_⟩⟩
    · exact .optionText (fun time => .of_isNumberChar (isNumberChar_toString_int _)) _
    · split <;> decide
    · exact List.forall_mem_singleton.mpr (.optionText Prediction.isLine_text _)

theorem Summary.isLine_text (summary : Summary) : IsLine summary.text := by
  have count (number : Nat) : IsLine (toString number) :=
    .of_isNumberChar (isNumberChar_toString_nat number)
  refine IsLine.recordText ?_ ?_
  · show ∀ name ∈ ["events", "handled", "not_ready", "predicted_samples", "mean_horizon",
      "max_horizon"], IsLine name
    decide
  · simp only [List.map_cons, List.map_nil, List.forall_mem_cons, count, IsLine.finite?, true_and]
    exact List.forall_mem_nil _

/-- **Every record of a report stands in one line.** -/
theorem Report.isLine_of_mem_lines {summaryOnly : Bool} {report : Report Float} {line : String}
    (member : line ∈ report.lines summaryOnly) : IsLine line := by
  rcases List.mem_append.mp member with frames | last
  · cases summaryOnly with
    | true => exact absurd frames List.not_mem_nil
    | false =>
      obtain ⟨frame, _, rfl⟩ := List.mem_map.mp frames
      exact frame.isLine_text
  · rw [List.mem_singleton.mp last]
    exact report.summary.isLine_text

end PointerForecast
