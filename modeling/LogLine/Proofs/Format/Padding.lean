import LogLine.Proofs.Format.NumberText

/-
  Padding puts the missing characters into one place of a
  formatted value, and changes nothing else.

  Key definitions include:
    * `LogLine.FilledUp`
    * `LogLine.Spec.leadOf`
    * `LogLine.FieldLayout`

  Key theorems include:
    * `LogLine.Spec.filledUp_pad`
    * `LogLine.Spec.apply_blank`
    * `LogLine.Spec.describes_of_body`
    * `LogLine.padding_fills_one_place`
-/

------------------------------------------------------------
-- Filling Up
------------------------------------------------------------

namespace LogLine

/-
  The text `lead ++ rest` with `count` characters put in: behind
  it, in front of it, between its parts, or to both sides, where
  the odd one of an odd number goes behind.
-/
inductive FilledUp
    (fill : Char)
    (count : Nat)
    (lead rest : Text) :
    Align → Text → Prop where
  | left :
      FilledUp fill count lead rest .left
        (lead ++ rest ++ List.replicate count fill)
  | right :
      FilledUp fill count lead rest .right
        (List.replicate count fill ++ (lead ++ rest))
  | center :
      FilledUp fill count lead rest .center
        (List.replicate (count / 2) fill ++ (lead ++ rest) ++
          List.replicate (count - count / 2) fill)
  | afterSign :
      FilledUp fill count lead rest .afterSign
        (lead ++ List.replicate count fill ++ rest)

namespace FilledUp

variable {fill : Char}
variable {count : Nat}
variable {lead rest text : Text}
variable {align : Align}

theorem length_eq
    (hFilled : FilledUp fill count lead rest align text) :
    text.length = (lead ++ rest).length + count := by
  cases hFilled with
  | left => rw [List.length_append, List.length_replicate]
  | right =>
      simp only [List.length_append, List.length_replicate]
      omega
  | center =>
      simp only [List.length_append, List.length_replicate]
      omega
  | afterSign =>
      simp only [List.length_append, List.length_replicate]
      omega

/- Nothing is put in where nothing is missing. -/
theorem eq_of_count_eq_zero
    (hFilled : FilledUp fill count lead rest align text)
    (hNone : count = 0) :
    text = lead ++ rest := by
  subst hNone
  cases hFilled with
  | left => simp
  | right => rfl
  | center => simp
  | afterSign => simp

end FilledUp

namespace Spec

theorem filledUp_pad
    (spec : Spec)
    (body : Body) :
    FilledUp spec.padChar
      (spec.width.getD 0 - body.unpadded.length)
      body.lead body.text (spec.padAlign body.numeric)
      (spec.pad body) := by
  unfold pad Body.unpadded
  rw [List.length_append]
  cases spec.padAlign body.numeric with
  | left => exact .left
  | right =>
      simp only [List.append_assoc]
      exact .right
  | center =>
      simp only [List.append_assoc _ body.lead body.text]
      exact .center
  | afterSign => exact .afterSign

/- The spec without its width. -/
def withoutWidth
    (spec : Spec) :
    Spec :=
  { spec with width := none }

theorem body_withoutWidth
    (spec : Spec)
    (value : Value) :
    spec.withoutWidth.body value = spec.body value := by
  cases value <;> rfl

theorem pad_withoutWidth
    (spec : Spec)
    (body : Body) :
    spec.withoutWidth.pad body = body.unpadded := by
  have hFilled := spec.withoutWidth.filledUp_pad body
  exact hFilled.eq_of_count_eq_zero (Nat.zero_sub _)

end Spec

end LogLine

------------------------------------------------------------
-- The Blank Spec
------------------------------------------------------------

namespace LogLine

/- A number without a value is infinite or none. -/
theorem Binary64.isInfinite_eq_not_isNaN
    {x : Binary64}
    (hFinite : x.isFinite ≠ true) :
    x.isInfinite = !x.isNaN := by
  have hLast : (x.exponent.val == 2047) = true := by
    simpa [isFinite] using hFinite
  rw [isInfinite, isNaN, hLast, Bool.true_and, Bool.true_and,
    bne, Bool.not_not]

namespace Spec

theorem magnitudeText_blank
    (x : Binary64) :
    blank.magnitudeText x =
      .ok (valueLayout.write x.abs) := by
  unfold magnitudeText
  by_cases hFinite : x.isFinite = true
  · rw [if_pos hFinite]
    rfl
  · have hOther : x.abs.isInfinite = !x.abs.isNaN :=
      Binary64.isInfinite_eq_not_isNaN hFinite
    have hNaN : x.isNaN = x.abs.isNaN := rfl
    rw [if_neg hFinite, nonFiniteText, FloatLayout.write, hOther,
      hNaN]
    cases x.abs.isNaN with
    | true => rfl
    | false => rfl

theorem apply_blank_of_body
    {value : Value}
    {body : Body}
    (hBody : blank.body value = .ok body) :
    blank.apply value = .ok body.unpadded := by
  rw [apply, hBody]
  exact congrArg Except.ok (blank.pad_withoutWidth body)

/- Without any part a spec leaves a value as it is displayed. -/
theorem apply_blank
    (value : Value) :
    blank.apply value = .ok value.display := by
  cases value with
  | str text =>
      have hBody :
          blank.body (.str text) =
            .ok ⟨[], text.take text.length, false⟩ :=
        rfl
      rw [apply_blank_of_body hBody, Body.unpadded,
        List.take_length]
      rfl
  | int n =>
      have hBody :
          blank.body (.int n) =
            .ok ⟨blank.signText (n.toInt < 0) ++ [],
              Text.ofNat n.toInt.natAbs, true⟩ :=
        rfl
      rw [apply_blank_of_body hBody, Body.unpadded,
        Value.display, Text.ofInt, signText]
      by_cases hNegative : n.toInt < 0
      · simp [hNegative]
      · simp [hNegative, blank]
  | float x =>
      have hBody :
          blank.body (.float x) =
            .ok ⟨blank.signText (x.negative && !x.isNaN),
              valueLayout.write x.abs, true⟩ := by
        rw [body, floatBody, magnitudeText_blank]
        rfl
      have hDisplay :=
        valueLayout.write_eq_append_write_abs x
      rw [apply_blank_of_body hBody, Body.unpadded,
        Value.display, hDisplay, signText]
      rfl
  | none => rfl

end Spec

end LogLine

------------------------------------------------------------
-- Parts of a Formatted Value
------------------------------------------------------------

namespace LogLine

namespace Spec

/- Text is no number, and neither is a character. -/
def writesNumber
    (spec : Spec) :
    Value → Prop
  | .str _ => False
  | .int _ => spec.code ≠ some 'c'
  | .float _ => True
  | .none => False

/- The code of a spec for an integer. -/
def integerCode
    (spec : Spec) :
    Char :=
  spec.code.getD 'd'

/- The mark of the base of an integer, if that is asked for. -/
def baseMark
    (spec : Spec) :
    Text :=
  if spec.alternate then markerOf spec.integerCode else []

/- The sign of a number, with the mark of its base. -/
def leadOf
    (spec : Spec) :
    Value → Text
  | .str _ => []
  | .int n =>
      if spec.code = some 'c' then
        []
      else
        spec.signText (n.toInt < 0) ++ spec.baseMark
  | .float x => spec.signText (x.negative && !x.isNaN)
  | .none => []

/- What a formatted value is made of. -/
structure Describes
    (spec : Spec)
    (value : Value)
    (body : Body) : Prop where
  lead : body.lead = spec.leadOf value
  numeric : body.numeric = true ↔ spec.writesNumber value
  start :
    spec.writesNumber value →
      Text.StartsIn Char.isAlphanum body.text

variable {spec : Spec}
variable {body : Body}

/- Each guard of a text is passed, and then the text is cut. -/
theorem textBody_eq
    {text : Text}
    (hBody : spec.textBody text = .ok body) :
    body =
      ⟨[], text.take (spec.precision.getD text.length),
        false⟩ := by
  unfold textBody at hBody
  simp only at hBody
  split at hBody
  case h_3 => cases hBody
  all_goals
    simp only [throw_if_bind_eq_ok_iff] at hBody
    rcases hBody with ⟨-, -, -, hEnd⟩
    split at hEnd
    · cases hEnd
    · cases hEnd
      rfl

theorem floatBody_eq
    {x : Binary64}
    (hBody : spec.floatBody x = .ok body) :
    body.lead = spec.signText (x.negative && !x.isNaN) ∧
      body.numeric = true ∧
      Text.StartsIn Char.isAlphanum body.text := by
  unfold floatBody at hBody
  simp only [bind_eq_ok_iff] at hBody
  rcases hBody with ⟨number, hNumber, text, hText, hBody⟩
  cases hBody
  exact
    ⟨rfl, rfl,
      startsIn_of_grouped (startsIn_of_magnitudeText hNumber)
        hText⟩

theorem characterBody_eq
    {n : Int64}
    (hBody : spec.characterBody n = .ok body) :
    body.lead = [] ∧ body.numeric = false := by
  unfold characterBody at hBody
  split at hBody
  · cases hBody
  · split at hBody
    · cases hBody
    · cases hBody
      exact ⟨rfl, rfl⟩

theorem digitsBody_eq
    {code : Char}
    {base : Base}
    (hBase : Base.ofCode? code = some base)
    {n : Int64}
    (hBody : spec.digitsBody code base n = .ok body) :
    body.lead =
        spec.signText (n.toInt < 0) ++
          (if spec.alternate then markerOf code else []) ∧
      body.numeric = true ∧
      Text.StartsIn Char.isAlphanum body.text := by
  rcases Base.of_ofCode? hBase with ⟨-, -, hMarker, -⟩
  rw [digitsBody_eq_map, map_eq_ok_iff] at hBody
  rcases hBody with ⟨digits, hDigits, rfl⟩
  exact
    ⟨by rw [hMarker], rfl,
      Base.startsIn_of_groupedDigits hBase hDigits⟩

/- Codes of floating-point numbers mark no base. -/
theorem markerOf_of_mem_floatCodes :
    ∀ code ∈ floatCodes, markerOf code = [] := by
  decide

/-
  An integer is formatted as a floating-point number, as a
  character, or by its digits.
-/
theorem integerBody_cases
    {n : Int64}
    (hBody : spec.integerBody n = .ok body) :
    (spec.integerCode ∈ floatCodes ∧
      spec.floatBody (Binary64.ofInt n.toInt) = .ok body) ∨
    (spec.integerCode = 'c' ∧
      spec.characterBody n = .ok body) ∨
    ∃ base,
      Base.ofCode? spec.integerCode = some base ∧
      spec.digitsBody spec.integerCode base n = .ok body := by
  unfold integerCode
  unfold integerBody at hBody
  simp only at hBody
  split at hBody
  case isTrue hFloat => exact Or.inl ⟨hFloat, hBody⟩
  case isFalse =>
      split at hBody
      · cases hBody
      · split at hBody
        case isTrue hCharacter =>
            exact Or.inr (Or.inl ⟨hCharacter, hBody⟩)
        case isFalse =>
            split at hBody
            case h_1 base hBase =>
                exact Or.inr (Or.inr ⟨base, hBase, hBody⟩)
            case h_2 => cases hBody

theorem code_eq_c_iff
    (spec : Spec) :
    spec.code = some 'c' ↔ spec.integerCode = 'c' := by
  unfold integerCode
  cases spec.code with
  | none => decide
  | some code => exact Option.some_inj

theorem leadOf_int
    (n : Int64)
    (hOther : spec.integerCode ≠ 'c') :
    spec.leadOf (.int n) =
      spec.signText (n.toInt < 0) ++ spec.baseMark := by
  rw [leadOf, if_neg (mt spec.code_eq_c_iff.mp hOther)]

theorem describes_of_integerBody
    {n : Int64}
    (hBody : spec.integerBody n = .ok body) :
    spec.Describes (.int n) body := by
  have hDigitCodes : ∀ code ∈ digitCodes, code ≠ 'c' := by
    decide
  have hFloatCodes : ∀ code ∈ floatCodes, code ≠ 'c' := by
    decide
  rcases integerBody_cases hBody with
    ⟨hFloat, hFloatBody⟩ | ⟨hCharacter, hCharacterBody⟩ |
      ⟨base, hBase, hDigitsBody⟩
  · have hOther := hFloatCodes _ hFloat
    rcases floatBody_eq hFloatBody with
      ⟨hLead, hNumeric, hStart⟩
    rcases Binary64.ofInt_sign n.toInt with ⟨hNegative, hNaN⟩
    constructor
    case lead =>
        rw [hLead, hNegative, hNaN, leadOf_int n hOther,
          baseMark, markerOf_of_mem_floatCodes _ hFloat]
        simp
    case numeric =>
        rw [writesNumber, ne_eq, code_eq_c_iff]
        exact ⟨fun _ => hOther, fun _ => hNumeric⟩
    case start => exact fun _ => hStart
  · have hCode := spec.code_eq_c_iff.mpr hCharacter
    rcases characterBody_eq hCharacterBody with
      ⟨hLead, hNumeric⟩
    constructor
    case lead => rw [hLead, leadOf, if_pos hCode]
    case numeric => simp [hNumeric, writesNumber, hCode]
    case start => exact fun hNumber => absurd hCode hNumber
  · have hOther :=
      hDigitCodes _ (Base.of_ofCode? hBase).1
    rcases digitsBody_eq hBase hDigitsBody with
      ⟨hLead, hNumeric, hStart⟩
    constructor
    case lead => rw [hLead, leadOf_int n hOther, baseMark]
    case numeric =>
        rw [writesNumber, ne_eq, code_eq_c_iff]
        exact ⟨fun _ => hOther, fun _ => hNumeric⟩
    case start => exact fun _ => hStart

theorem describes_of_body
    {value : Value}
    (hBody : spec.body value = .ok body) :
    spec.Describes value body := by
  cases value with
  | str text =>
      rw [textBody_eq hBody]
      exact ⟨rfl, by simp [writesNumber], fun h => h.elim⟩
  | int n => exact describes_of_integerBody hBody
  | float x =>
      rcases floatBody_eq hBody with ⟨hLead, hNumeric, hStart⟩
      exact
        ⟨hLead, ⟨fun _ => trivial, fun _ => hNumeric⟩,
          fun _ => hStart⟩
  | none =>
      rw [textBody_eq hBody]
      exact ⟨rfl, by simp [writesNumber], fun h => h.elim⟩

end Spec

end LogLine

------------------------------------------------------------
-- Padded Values
------------------------------------------------------------

namespace LogLine

/- The fill and the alignment that a value gets in its field. -/
structure FieldLayout
    (spec : Spec)
    (value : Value)
    (fill : Char)
    (align : Align) : Prop where
  fill_given : ∀ c ∈ spec.fill, fill = c
  fill_zero :
    spec.fill = none → spec.zero = true → fill = '0'
  fill_blank :
    spec.fill = none → spec.zero = false → fill = ' '
  align_given : ∀ own ∈ spec.align, align = own
  align_text :
    spec.align = none → ¬ spec.writesNumber value →
      align = .left
  align_zero :
    spec.align = none → spec.writesNumber value →
      spec.zero = true → align = .afterSign
  align_number :
    spec.align = none → spec.writesNumber value →
      spec.zero = false → align = .right

theorem fieldLayout_of_describes
    {spec : Spec}
    {value : Value}
    {body : Body}
    (hBody : spec.Describes value body) :
    FieldLayout spec value spec.padChar
      (spec.padAlign body.numeric) := by
  have hNumeric := hBody.numeric
  unfold Spec.padChar Spec.padAlign
  constructor
  case fill_given =>
      intro c hFill
      rw [Option.mem_def.mp hFill, Option.getD_some]
  case fill_zero =>
      intro hFill hZero
      rw [hFill, Option.getD_none, if_pos hZero]
  case fill_blank =>
      intro hFill hZero
      simp [hFill, hZero]
  case align_given =>
      intro own hAlign
      rw [Option.mem_def.mp hAlign, Option.getD_some]
  case align_text =>
      intro hAlign hText
      rw [hAlign, Option.getD_none,
        if_neg (mt hNumeric.mp hText)]
  case align_zero =>
      intro hAlign hNumber hZero
      rw [hAlign, Option.getD_none,
        if_pos (hNumeric.mpr hNumber), if_pos hZero]
  case align_number =>
      intro hAlign hNumber hZero
      rw [hAlign, Option.getD_none,
        if_pos (hNumeric.mpr hNumber)]
      simp [hZero]

/-
  A width has no part in whether a value can be formatted.  A
  value that is as wide as its field is left as it is, and any
  other is filled up in one place: where the alignment says,
  behind the sign and the base of a number and in front of its
  digits, or to both sides.  A text is cut by the precision.
-/
theorem padding_fills_one_place
    (spec : Spec)
    (value : Value) :
    (∀ failure,
      spec.apply value = .error failure ↔
        spec.withoutWidth.apply value = .error failure) ∧
    (∀ text,
      spec.withoutWidth.apply value = .ok text →
        ∃ padded,
          spec.apply value = .ok padded ∧
          ((∀ width ∈ spec.width, width ≤ text.length) →
            padded = text) ∧
          ∀ width ∈ spec.width, text.length < width →
            padded.length = width ∧
            ∃ fill align rest,
              FieldLayout spec value fill align ∧
              text = spec.leadOf value ++ rest ∧
              (spec.writesNumber value →
                Text.StartsIn Char.isAlphanum rest) ∧
              FilledUp fill (width - text.length)
                (spec.leadOf value) rest align padded) ∧
    (∀ string text,
      value = .str string →
      spec.withoutWidth.apply value = .ok text →
        (∀ precision ∈ spec.precision,
          text = string.take precision) ∧
        (spec.precision = none → text = string)) := by
  have hNarrow {text : Text}
      (hText : spec.withoutWidth.apply value = .ok text) :
      ∃ body,
        spec.body value = .ok body ∧ body.unpadded = text := by
    unfold Spec.apply at hText
    rw [spec.body_withoutWidth, map_eq_ok_iff] at hText
    rcases hText with ⟨body, hBody, hPad⟩
    rw [spec.pad_withoutWidth] at hPad
    exact ⟨body, hBody, hPad⟩
  refine ⟨?_, ?_, ?_⟩
  · intro failure
    unfold Spec.apply
    rw [map_eq_error_iff, map_eq_error_iff,
      spec.body_withoutWidth]
  · intro text hText
    rcases hNarrow hText with ⟨body, hBody, rfl⟩
    have hParts := Spec.describes_of_body hBody
    have hFilled := spec.filledUp_pad body
    refine ⟨spec.pad body, ?_, ?_, ?_⟩
    · rw [Spec.apply, hBody]
      rfl
    · intro hFits
      apply hFilled.eq_of_count_eq_zero
      cases hWidth : spec.width with
      | none => exact Nat.zero_sub _
      | some width =>
          exact Nat.sub_eq_zero_of_le (hFits width hWidth)
    · intro width hWidth hLess
      rw [Option.mem_def.mp hWidth, Option.getD_some] at hFilled
      have hLength := hFilled.length_eq
      rw [hParts.lead] at hFilled
      refine
        ⟨?_, spec.padChar, spec.padAlign body.numeric, body.text,
          fieldLayout_of_describes hParts, ?_, hParts.start,
          hFilled⟩
      · rw [← Body.unpadded] at hLength
        omega
      · rw [← hParts.lead]
        rfl
  · rintro string text rfl hText
    rcases hNarrow hText with ⟨body, hBody, rfl⟩
    rw [Spec.textBody_eq hBody, Body.unpadded, List.nil_append]
    constructor
    · intro precision hPrecision
      rw [Option.mem_def.mp hPrecision, Option.getD_some]
    · intro hPrecision
      rw [hPrecision, Option.getD_none, List.take_length]

/- Three characters are missing; the odd one goes behind. -/
def centeredSpec : Spec :=
  { Spec.blank with
    fill := some '*'
    align := some .center
    alternate := true
    width := some 8
    code := some 'x' }

theorem padding_fills_one_place_of_center :
    centeredSpec.withoutWidth.apply (.int (-255)) =
        .ok "-0xff".toList ∧
      ∃ padded,
        centeredSpec.apply (.int (-255)) = .ok padded ∧
        padded.length = 8 ∧
        ∃ fill align rest,
          FieldLayout centeredSpec (.int (-255)) fill align ∧
          FilledUp fill 3 "-0x".toList rest align padded := by
  have hText :
      centeredSpec.withoutWidth.apply (.int (-255)) =
        .ok "-0xff".toList := by
    decide
  rcases (padding_fills_one_place centeredSpec (.int (-255))).2.1
      _ hText with
    ⟨padded, hPadded, -, hWide⟩
  rcases hWide 8 rfl (by decide) with
    ⟨hLength, fill, align, rest, hLayout, -, -, hFilled⟩
  exact
    ⟨hText, padded, hPadded, hLength, fill, align, rest, hLayout,
      hFilled⟩

end LogLine
