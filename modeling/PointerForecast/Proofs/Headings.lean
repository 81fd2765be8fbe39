/-
**What decides the heading of a failure.**

A heading is chosen by words that occur in the text of a failure. The text is made of words of its
own, which belong to the stage that failed, and of what it repeats: paths, names, and the texts of
the system. Between the two there is always a character that is in none of the words looked for, so
each of them occurs in one part or in none. A number never contains any. Hence the heading is the
earliest of those that the parts choose: that of the stage, unless something repeated has words of
an earlier one. A path such as `trace.toml` has.

* `mentions_gap`: **words do not reach across a gap.**
* `Heading.first`, `Heading.ofText_labelled`: the earlier heading of two parts.
* `Heading.earliest`, `Heading.earliest_eq_self_iff`: the earliest of several, and when it is the
  first one.
* `Failure.ownHeading`, `Failure.repeated`: the parts of a failure; `Failure.heading_eq_earliest`:
  **its heading.**
* `Failure.of_gather`, `Failure.of_loadTrace`: the failures over settings and traces.
* `Failure.heading_isEarliest`: **what decides the heading of a failure.**
-/

import PointerForecast.Diagnosis
import PointerForecast.Proofs.AllOrNothing

namespace PointerForecast

/-! ### Phrases in a text -/

theorem occursIn_iff (phrase text : List Char) :
    occursIn phrase text = true ↔ phrase <:+: text := by
  induction text with
  | nil => exact List.isEmpty_iff.trans List.infix_nil.symm
  | cons c rest ih =>
    rw [occursIn, Bool.or_eq_true, List.isPrefixOf_iff_prefix, ih, List.infix_cons_iff]

theorem mentions_iff (text phrase : String) :
    mentions text phrase = true ↔ phrase.toList <:+: text.toList := occursIn_iff _ _

/-- What occurs around a gap with none of its characters occurs before or after it. -/
theorem infix_gap_iff {α : Type} {part gap : List α} (present : gap ≠ [])
    (outside : ∀ c ∈ gap, c ∉ part) (before after : List α) :
    part <:+: before ++ (gap ++ after) ↔ part <:+: before ∨ part <:+: after := by
  constructor
  · intro found
    -- A part that reaches into the gap has a character of it: the first one there, or the last one.
    rcases List.infix_append_iff_ne_nil.mp found with
      first | rest | ⟨left, right, _, more, rfl, _, reaches⟩
    · exact .inl first
    · rcases List.infix_append_iff_ne_nil.mp rest with
        inside | last | ⟨left, right, some, _, rfl, reaches, _⟩
      · cases part with
        | nil => exact .inl List.nil_infix
        | cons c _ => exact absurd List.mem_cons_self (outside c (inside.subset List.mem_cons_self))
      · exact .inr last
      · obtain ⟨c, member⟩ := List.exists_mem_of_ne_nil left some
        exact absurd (List.mem_append_left right member) (outside c (reaches.subset member))
    · obtain ⟨c, _, rfl⟩ := List.exists_cons_of_ne_nil more
      obtain ⟨_, _, rfl⟩ := List.exists_cons_of_ne_nil present
      obtain ⟨rfl, _⟩ := List.cons_prefix_cons.mp reaches
      exact absurd (List.mem_append_right left List.mem_cons_self) (outside c List.mem_cons_self)
  · rintro (first | last)
    · exact first.trans (List.prefix_append before _).isInfix
    · rw [← List.append_assoc]
      exact last.trans (List.suffix_append _ after).isInfix

/-- **Words do not reach across a gap** that has none of their characters. -/
theorem mentions_gap {gap phrase : String} (present : gap ≠ "")
    (outside : ∀ c ∈ gap.toList, c ∉ phrase.toList) (before after : String) :
    mentions (before ++ gap ++ after) phrase =
      (mentions before phrase || mentions after phrase) := by
  have some : gap.toList ≠ [] := mt String.toList_eq_nil_iff.mp present
  rw [Bool.eq_iff_iff, Bool.or_eq_true, mentions_iff, mentions_iff, mentions_iff,
    String.toList_append, String.toList_append, List.append_assoc]
  exact infix_gap_iff some outside _ _

theorem mentions_eq_false {text phrase : String} {c : Char} (needed : c ∈ phrase.toList)
    (lacking : c ∉ text.toList) : mentions text phrase = false := by
  rw [Bool.eq_false_iff, ne_eq, mentions_iff]
  exact fun found => lacking (found.subset needed)

/-! ### Headings of parts -/

namespace Heading

/-- The place of a heading in the order in which words are looked for. -/
def rank : Heading → Nat
  | reportRate => 0
  | trace => 1
  | configuration => 2
  | prediction => 3

/-- The earlier of two headings. -/
def first (one other : Heading) : Heading := if other.rank < one.rank then other else one

theorem reportRate_first (other : Heading) : reportRate.first other = reportRate := by
  cases other <;> rfl

theorem first_prediction (one : Heading) : one.first prediction = one := by cases one <;> rfl

/-- The words that a text is searched for. -/
def phrases : List String := ["report rate", "trace", "config", "Invalid"]

/-- **The heading of a text with a gap** is the earlier one of its two parts. -/
theorem ofText_gap {gap : String} (present : gap ≠ "")
    (outside : ∀ phrase ∈ phrases, ∀ c ∈ gap.toList, c ∉ phrase.toList) (before after : String) :
    ofText (before ++ gap ++ after) = (ofText before).first (ofText after) := by
  simp only [phrases, List.forall_mem_cons] at outside
  obtain ⟨rate, trace, config, invalid, _⟩ := outside
  unfold ofText
  rw [mentions_gap present rate, mentions_gap present trace, mentions_gap present config,
    mentions_gap present invalid]
  -- It remains to compare the answers to the four questions about each part.
  generalize mentions before "report rate" = rate₁, mentions after "report rate" = rate₂,
    mentions before "trace" = trace₁, mentions after "trace" = trace₂,
    mentions before "config" = config₁, mentions after "config" = config₂,
    mentions before "Invalid" = invalid₁, mentions after "Invalid" = invalid₂
  revert rate₁ rate₂ trace₁ trace₂ config₁ config₂ invalid₁ invalid₂
  decide

/-- A space before a text does not matter. -/
theorem ofText_space (text : String) : ofText (" " ++ text) = ofText text := by
  have spaced {phrase : String} (starts : phrase.toList.head? ≠ some ' ')
      (present : phrase.toList ≠ []) : mentions (" " ++ text) phrase = mentions text phrase := by
    rw [Bool.eq_iff_iff, mentions_iff, mentions_iff, String.toList_append]
    refine List.infix_cons_iff.trans (or_iff_right fun leads => starts ?_)
    obtain ⟨c, _, spelled⟩ := List.exists_cons_of_ne_nil present
    rw [spelled] at leads ⊢
    rw [(List.cons_prefix_cons.mp leads).1]
    rfl
  unfold ofText
  rw [spaced, spaced, spaced, spaced] <;> decide

/-- A sign that is in none of the words parts a text. -/
theorem ofText_sign {sign : Char} (strange : ∀ phrase ∈ phrases, sign ∉ phrase.toList)
    (before after : String) : ofText (before ++ String.singleton sign ++ after) =
      (ofText before).first (ofText after) := by
  have only : (String.singleton sign).toList = [sign] := String.toList_singleton sign
  refine ofText_gap (fun empty => ?_) (fun phrase member => ?_) before after
  · rw [empty] at only
    cases only
  · rw [only]
    exact List.forall_mem_singleton.mpr (strange phrase member)

/-- **The heading of a text with a label** is the earlier one of the label and the rest. -/
theorem ofText_labelled (label text : String) :
    ofText (label ++ ": " ++ text) = (ofText label).first (ofText text) := by
  have sign : ": " = String.singleton ':' ++ " " := rfl
  rw [sign, ← String.append_assoc, String.append_assoc, ← ofText_space text]
  exact ofText_sign (by decide) label (" " ++ text)

/-- A number parts a text. -/
theorem ofText_number (number : Nat) (before after : String) :
    ofText (before ++ toString number ++ after) = (ofText before).first (ofText after) := by
  have words : ∀ phrase ∈ phrases, phrase.toList.any Char.isDigit = false := by decide
  have digits := toList_toString_nat number
  refine ofText_gap (fun empty => ?_) (fun phrase member c digit inside => ?_) before after
  · rw [empty] at digits
    exact Nat.toDigits_ne_nil digits.symm
  · rw [digits] at digit
    have found := List.any_eq_true.mpr ⟨c, inside, NumberLayout.isDigit_digitText number c digit⟩
    rw [words phrase member] at found
    cases found

theorem ofText_append_number (before : String) (number : Nat) :
    ofText (before ++ toString number) = ofText before := by
  have parted := ofText_number number before ""
  rw [String.append_empty] at parted
  exact parted.trans (first_prediction _)

/-- Holds of a text that lacks a letter of each of the words. -/
def IsQuiet (text : String) : Prop :=
  'p' ∉ text.toList ∧ 't' ∉ text.toList ∧ 'c' ∉ text.toList ∧ 'I' ∉ text.toList

instance (text : String) : Decidable (IsQuiet text) := inferInstanceAs (Decidable (_ ∧ _))

theorem IsQuiet.append {one other : String} (first : IsQuiet one) (second : IsQuiet other) :
    IsQuiet (one ++ other) := by
  unfold IsQuiet
  rw [String.toList_append]
  exact ⟨List.not_mem_append first.1 second.1, List.not_mem_append first.2.1 second.2.1,
    List.not_mem_append first.2.2.1 second.2.2.1, List.not_mem_append first.2.2.2 second.2.2.2⟩

theorem IsQuiet.ofText {text : String} (quiet : IsQuiet text) : ofText text = prediction := by
  obtain ⟨p, t, c, i⟩ := quiet
  unfold Heading.ofText
  rw [mentions_eq_false (by decide) p, mentions_eq_false (by decide) t,
    mentions_eq_false (by decide) c, mentions_eq_false (by decide) i]
  rfl

theorem isQuiet_messageNumber (value : Float) : IsQuiet (messageNumber value) := by
  rcases messageNumber_cases value with number | word
  · have lacks {c : Char} (letter : isNumberChar c = false) : c ∉ (messageNumber value).toList :=
      fun member => Bool.eq_false_iff.mp letter (number c member)
    exact ⟨lacks rfl, lacks rfl, lacks rfl, lacks rfl⟩
  · have words : ∀ word ∈ ["NaN", "inf", "-inf"], IsQuiet word := by decide
    exact words _ word

/-! ### The earliest heading -/

/-- The earliest of a heading and those that some texts choose. -/
def earliest (own : Heading) (texts : List String) : Heading :=
  texts.foldl (fun heading text => heading.first (ofText text)) own

/-- The words of the headings before one. -/
def earlierPhrases : Heading → List String
  | reportRate => []
  | trace => ["report rate"]
  | configuration => ["report rate", "trace"]
  | prediction => phrases

theorem rank_first_le (one other : Heading) : (one.first other).rank ≤ one.rank := by
  unfold first
  split <;> omega

theorem rank_earliest_le (own : Heading) (texts : List String) :
    (own.earliest texts).rank ≤ own.rank := by
  induction texts generalizing own with
  | nil => exact Nat.le_refl _
  | cons text rest ih => exact (ih _).trans (rank_first_le own _)

theorem first_ofText_eq_self_iff (own : Heading) (text : String) :
    own.first (ofText text) = own ↔
      ∀ phrase ∈ own.earlierPhrases, mentions text phrase = false := by
  unfold ofText
  cases own <;>
    simp only [earlierPhrases, phrases, List.forall_mem_cons, List.not_mem_nil, false_imp_iff,
      implies_true, and_true] <;>
    generalize mentions text "report rate" = rate, mentions text "trace" = trace,
      mentions text "config" = config, mentions text "Invalid" = invalid <;>
    revert rate trace config invalid <;>
    decide

/-- **A heading is the earliest** if and only if no text has words of a heading before it. -/
theorem earliest_eq_self_iff (own : Heading) (texts : List String) :
    own.earliest texts = own ↔
      ∀ text ∈ texts, ∀ phrase ∈ own.earlierPhrases, mentions text phrase = false := by
  induction texts with
  | nil => exact iff_of_true rfl nofun
  | cons text rest ih =>
    rw [List.forall_mem_cons, ← first_ofText_eq_self_iff, ← ih]
    show (own.first (ofText text)).earliest rest = own ↔ _
    by_cases same : own.first (ofText text) = own
    · rw [same, and_iff_right rfl]
    · -- An earlier heading never gives way to a later one.
      refine iff_of_false (fun last => same ?_) (fun both => same both.1)
      have below := rank_earliest_le (own.first (ofText text)) rest
      rw [last] at below
      unfold first at below ⊢
      split at below
      · omega
      · exact if_neg ‹_›

end Heading

/-! ### The parts of a failure -/

/-- The heading that the words of a fault choose. -/
def Fault.ownHeading : Fault → Heading
  | .invalidReportRate _ => .reportRate
  | _ => .prediction

/-- The heading that the words for a setting out of range choose. -/
def SettingFault.ownHeading {α : Type} : SettingFault α → Heading
  | .rate _ => .reportRate
  | _ => .configuration

/-- The names that the text for a setting out of range repeats. -/
def SettingFault.repeated {α : Type} : SettingFault α → List String
  | .level name => [name]
  | .format name => [name]
  | _ => []

namespace Failure

/-- The heading that the words of a failure choose, without what it repeats. -/
def ownHeading : Failure → Heading
  | unreadableSettings .. => .configuration
  | malformedSettings _ => .configuration
  | rejectedSettings fault => fault.ownHeading
  | unwritableLog .. => .prediction
  | unreadableTrace .. => .trace
  | malformedTrace _ => .trace
  | invalidEvent _ fault => Heading.trace.first fault.ownHeading
  | predictor fault => fault.ownHeading

/-- What the text of a failure repeats: paths, names, and the texts of the system and of the
languages of the files. -/
def repeated : Failure → List String
  | unreadableSettings path cause => [path, cause]
  | malformedSettings cause => [cause]
  | rejectedSettings fault => fault.repeated
  | unwritableLog path cause => [path, cause]
  | unreadableTrace path cause => [path, cause]
  | malformedTrace cause => [cause]
  | _ => []

end Failure

/-! ### The heading of a failure -/

namespace Heading

theorem ofText_labelled_messageNumber (label : String) (value : Float) :
    ofText (label ++ ": " ++ messageNumber value) = ofText label := by
  rw [ofText_labelled, (isQuiet_messageNumber value).ofText, first_prediction]

theorem ofText_weight (name : String) (value : Float) :
    ofText (SettingFault.message.weight name value) = ofText ("Invalid " ++ name) := by
  have range : " (expected 0.0 < value <= 1.0)" =
      " " ++ (String.singleton '(' ++ "expected 0.0 < value <= 1.0)") := rfl
  have quiet := (isQuiet_messageNumber value).append (by decide : IsQuiet " ")
  unfold SettingFault.message.weight
  rw [String.append_assoc, ofText_labelled, range, ← String.append_assoc, ← String.append_assoc,
    ofText_sign (by decide), quiet.ofText]
  exact first_prediction _

/-- A path and the cause behind a label. -/
theorem ofText_path (label path cause : String) :
    ofText (label ++ ": " ++ path ++ ": " ++ cause) = (ofText label).earliest [path, cause] := by
  rw [ofText_labelled, ofText_labelled]
  rfl

theorem ofText_fault (fault : Fault) : ofText fault.message = fault.ownHeading := by
  cases fault with
  | invalidReportRate milliseconds =>
    show ofText ("Invalid report rate" ++ ": " ++ toString milliseconds.toInt ++
      "ms (must be strictly positive)") = _
    rw [String.append_assoc, ofText_labelled]
    exact reportRate_first _
  | pointerCountMismatch pointers entries =>
    show ofText ("Pointer count mismatch: event has " ++ toString pointers ++
      " pointers but sample has " ++ toString entries) = _
    rw [ofText_append_number, ofText_number]
    rfl
  | emptyEvent => rfl

theorem ofText_settingFault (fault : SettingFault Float) :
    ofText fault.message = fault.ownHeading.earliest fault.repeated := by
  cases fault with
  | rate milliseconds => exact ofText_fault (.invalidReportRate milliseconds)
  | processNoise value => exact ofText_labelled_messageNumber "Invalid process noise" value
  | measurementNoise value => exact ofText_labelled_messageNumber "Invalid measurement noise" value
  | historySize size =>
    show ofText ("Invalid history_size: " ++ toString size ++ " (linear predictor needs at least "
      ++ toString Motion.leastHistory ++ " samples)") = _
    rw [ofText_number, ofText_number]
    rfl
  | velocitySmoothing value => exact ofText_weight "velocity_smoothing" value
  | accelerationSmoothing value => exact ofText_weight "acceleration_smoothing" value
  | maxDistance value =>
    exact ofText_labelled_messageNumber "Invalid max_prediction_distance" value
  | level name => exact ofText_labelled "Invalid log level" name
  | format name => exact ofText_labelled "Invalid log format" name

end Heading

namespace Failure

open Heading

/-- **The heading of a failure** is the earliest one that its words and what they repeat choose. -/
theorem heading_eq_earliest (failure : Failure) :
    failure.heading = failure.ownHeading.earliest failure.repeated := by
  cases failure with
  | unreadableSettings path cause => exact ofText_path "Failed to read config file" path cause
  | malformedSettings cause => exact ofText_labelled "Failed to parse config file" cause
  | rejectedSettings fault => exact ofText_settingFault fault
  | unwritableLog path cause => exact ofText_path "Failed to create log file" path cause
  | unreadableTrace path cause => exact ofText_path "Failed to read trace file" path cause
  | malformedTrace cause => exact ofText_labelled "Failed to parse trace file" cause
  | invalidEvent index fault =>
    show ofText ("Invalid trace event #" ++ toString index ++ ": " ++ fault.message) = _
    rw [ofText_labelled, ofText_append_number, ofText_fault]
    rfl
  | predictor fault => exact ofText_fault fault

/-! ### Failures over settings and traces -/

section Steps

variable {α β ε : Type} {tried : Except ε α} {context : ε → Failure} {failure : Failure}

theorem of_mapError (failed : tried.mapError context = .error failure) :
    ∃ cause, failure = context cause := by
  cases tried with
  | error cause => exact ⟨cause, (Except.error.inj failed).symm⟩
  | ok _ => cases failed

/-- A failure comes from the step that fails first. -/
theorem of_mapError_bind {next : α → Except Failure β}
    (failed : tried.mapError context >>= next = .error failure) :
    (∃ cause, failure = context cause) ∨ ∃ value, next value = .error failure := by
  cases tried with
  | error cause => exact .inl ⟨cause, (Except.error.inj failed).symm⟩
  | ok value => exact .inr ⟨value, failed⟩

end Steps

/-- **Settings** cannot be read, are malformed, or are out of range. -/
theorem of_loadSettings {path : String} {content : FileContent} {failure : Failure}
    (failed : loadSettings path content = .error failure) :
    (∃ cause, failure = unreadableSettings path cause) ∨
      (∃ cause, failure = malformedSettings cause) ∨ ∃ fault, failure = rejectedSettings fault := by
  refine (of_mapError_bind failed).imp_right fun ⟨_, unread⟩ => ?_
  exact (of_mapError_bind unread).imp_right fun ⟨_, unchecked⟩ => of_mapError unchecked

/-- **The settings of a run** fail like those of a file. -/
theorem of_gather {σ : Type} {files : Files (StateM σ)} {request : Request} {world : σ}
    {failure : Failure} (failed : (gather files request world).1 = .error failure) :
    (∃ path cause, request.config? = some path ∧ failure = unreadableSettings path cause) ∨
      (∃ cause, failure = malformedSettings cause) ∨ ∃ fault, failure = rejectedSettings fault := by
  rw [gather_eq] at failed
  dsimp only at failed
  cases own : (request.ownSettings files world).1 with
  | ok settings =>
    rw [own] at failed
    exact .inr (.inr (of_mapError failed))
  | error cause =>
    rw [own] at failed
    obtain rfl := Except.error.inj failed
    unfold Request.ownSettings at own
    cases named : request.config? with
    | none =>
      rw [named] at own
      cases own
    | some path =>
      rw [named] at own
      exact (of_loadSettings own).imp_left fun ⟨cause, unread⟩ => ⟨path, cause, rfl, unread⟩

/-- An event of a wrong shape says nothing of a rate. -/
theorem ownHeading_of_fault? {event : MotionEvent Float} {fault : Fault}
    (faulty : event.fault? = some fault) : fault.ownHeading = .prediction := by
  unfold MotionEvent.fault? at faulty
  split at faulty
  · rw [← Option.some.inj faulty]
    rfl
  · obtain ⟨batch, _, rfl⟩ := Option.map_eq_some_iff.mp faulty
    rfl

/-- **A trace** cannot be read, is malformed, or has an event of a wrong shape. -/
theorem of_loadTrace {path : String} {content : FileContent} {failure : Failure}
    (failed : loadTrace path content = .error failure) :
    (∃ cause, failure = unreadableTrace path cause) ∨
      (∃ cause, failure = malformedTrace cause) ∨
      ∃ index fault, failure = invalidEvent index fault ∧ fault.ownHeading = .prediction := by
  refine (of_mapError_bind failed).imp_right fun ⟨_, unread⟩ => ?_
  refine (of_mapError_bind unread).imp (fun ⟨_, malformed⟩ => ⟨_, malformed⟩) ?_
  rintro ⟨events, misshaped⟩
  unfold checkTrace at misshaped
  split at misshaped
  · rename_i index fault found
    obtain ⟨⟨event, position⟩, _, faulty⟩ := List.exists_of_findSome?_eq_some found
    obtain ⟨same, shape, both⟩ := Option.map_eq_some_iff.mp faulty
    obtain ⟨rfl, rfl⟩ := Prod.mk.inj both
    exact ⟨_, _, (Except.error.inj misshaped).symm, ownHeading_of_fault? shape⟩
  · cases misshaped

/-- **What decides the heading of a failure.** It is the earliest one that its own words and what
they repeat choose; so it is that of its own words if and only if nothing repeated contains words of
an earlier heading. The own words choose the heading of the settings if these cannot be gathered,
except for a report rate, which is always shown under its own heading; and they choose the heading
of the trace if that cannot be loaded. -/
theorem heading_isEarliest {σ : Type} (files : Files (StateM σ)) (request : Request) (world : σ)
    (path : String) (content : FileContent) :
    (∀ failure : Failure, failure.heading = failure.ownHeading.earliest failure.repeated ∧
      (failure.heading = failure.ownHeading ↔ ∀ text ∈ failure.repeated,
        ∀ phrase ∈ failure.ownHeading.earlierPhrases, mentions text phrase = false)) ∧
    (∀ failure, (gather files request world).1 = .error failure →
      failure.ownHeading = configuration ∨
        ∃ milliseconds, failure = rejectedSettings (.rate milliseconds) ∧
          failure.heading = reportRate) ∧
    ∀ failure, loadTrace path content = .error failure → failure.ownHeading = trace := by
  refine ⟨fun failure => ?_, fun failure failed => ?_, fun failure failed => ?_⟩
  · rw [heading_eq_earliest]
    exact ⟨rfl, earliest_eq_self_iff _ _⟩
  · rcases of_gather failed with ⟨named, cause, _, rfl⟩ | ⟨cause, rfl⟩ | ⟨fault, rfl⟩
    · exact .inl rfl
    · exact .inl rfl
    · cases fault with
      | rate milliseconds => exact .inr ⟨milliseconds, rfl, heading_eq_earliest _⟩
      | _ => exact .inl rfl
  · rcases of_loadTrace failed with ⟨cause, rfl⟩ | ⟨cause, rfl⟩ | ⟨index, fault, rfl, silent⟩
    · rfl
    · rfl
    · exact (congrArg trace.first silent).trans (first_prediction trace)

/-- Settings that are not there, by two names: one of them has a word of the trace. -/
theorem heading_isEarliest_named :
    let request (name : String) : Request := { Request.empty with config? := some name }
    let missing (name : String) : Failure :=
      unreadableSettings name "No such file or directory (os error 2)"
    (∀ name ∈ ["trace.toml", "pen.toml"],
      (gather Directory.access (request name) (.ofFiles [])).1 = .error (missing name) ∧
        (missing name).ownHeading = configuration) ∧
      (missing "trace.toml").heading = trace ∧ (missing "pen.toml").heading = configuration := by
  intro request missing
  have gathered : ∀ name ∈ ["trace.toml", "pen.toml"],
      (gather Directory.access (request name) (.ofFiles [])).1 = .error (missing name) := by
    simp only [List.forall_mem_cons]
    exact ⟨rfl, rfl, nofun⟩
  have laws (name : String) :=
    heading_isEarliest Directory.access (request name) (.ofFiles []) name (.error "")
  refine ⟨fun name member => ⟨gathered name member, ?_⟩, ?_, ?_⟩
  · exact ((laws name).2.1 _ (gathered name member)).resolve_right nofun
  · exact ((laws "trace.toml").1 (missing "trace.toml")).1
  · exact ((laws "pen.toml").1 (missing "pen.toml")).2.mpr (by decide)

/-- **Not every failure to read the settings is shown under their heading.** -/
theorem heading_leavesSettings :
    ¬ ∀ (request : Request) (store : Directory) (path cause : String),
      (gather Directory.access request store).1 = .error (unreadableSettings path cause) →
      (unreadableSettings path cause).heading = configuration := by
  intro claim
  have shown := claim { Request.empty with config? := some "trace.toml" } (.ofFiles []) _ _ rfl
  revert shown
  decide

end Failure

end PointerForecast
