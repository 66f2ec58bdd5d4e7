import LogLine.Proofs.Format.General
import LogLine.Proofs.Format.Grouping

/-
  The point of a number in the alternate form: how often it
  stands in the text, whatever the notation, the separators
  and the padding are.

  Key definitions include:
    * `LogLine.Spec.AsksForPoint`
    * `LogLine.Spec.CanWrite`
    * `LogLine.LeavesNoFraction`
    * `LogLine.Spec.LosesPoint`

  Key theorems include:
    * `LogLine.Pointed.count_point_text`
    * `LogLine.Ratio.count_point_general`
    * `LogLine.Spec.exists_finiteText`
    * `LogLine.alternate_form_shows_point`
    * `LogLine.alternate_form_loses_point`
-/

------------------------------------------------------------
-- Points in Numbers
------------------------------------------------------------

namespace LogLine

theorem point_not_mem_of_isDigit
    {text : Text}
    (hDigits : ∀ c ∈ text, c.isDigit = true) :
    '.' ∉ text := by
  intro hMem
  exact absurd (hDigits '.' hMem) (by decide)

namespace Pointed

/- There is a point only if there are digits behind it. -/
theorem count_point_text
    (n : Pointed) :
    n.text.count '.' = if n.fraction = [] then 0 else 1 := by
  have hWhole : n.whole.count '.' = 0 :=
    List.count_eq_zero_of_not_mem
      (point_not_mem_of_isDigit n.isDigit_of_mem_whole)
  have hFraction : n.fraction.count '.' = 0 :=
    List.count_eq_zero_of_not_mem
      (point_not_mem_of_isDigit n.isDigit_of_mem_fraction)
  rw [text, List.count_append, hWhole, Nat.zero_add]
  unfold tail
  split
  · rfl
  · rw [List.count_cons_self, hFraction]

theorem count_point_ofUnits
    (places units : Nat) :
    (ofUnits places units).text.count '.' =
      if places = 0 then 0 else 1 := by
  rw [count_point_text]
  refine if_congr ?_ rfl rfl
  rw [← List.length_eq_zero_iff, length_fraction_ofUnits]

end Pointed

theorem count_point_withPoint
    (places units : Nat) :
    (withPoint places units).count '.' =
      if places = 0 then 0 else 1 := by
  rw [← Pointed.text_ofUnits]
  exact Pointed.count_point_ofUnits places units

/- The bare point stands where the digits have none. -/
theorem count_point_barePoint
    (places : Nat) :
    (barePoint true places).count '.' =
      if places = 0 then 1 else 0 := by
  unfold barePoint
  cases places with
  | zero => rfl
  | succ places => rfl

theorem count_point_exponentText
    (exponent : Int) :
    (exponentText true 2 exponent).count '.' = 0 := by
  have hDigits :
      ((Text.ofNat exponent.natAbs).zeroPadded 2).count '.' = 0 :=
    List.count_eq_zero_of_not_mem
      (point_not_mem_of_isDigit fun c =>
        Text.isDigit_of_mem_zeroPadded)
  unfold exponentText
  rw [List.cons_append, List.count_cons_of_ne (by decide),
    List.count_append, hDigits]
  split
  · rfl
  · rfl

end LogLine

------------------------------------------------------------
-- Notations
------------------------------------------------------------

namespace LogLine

/-
  Rounded to so many digits, a number of this order of
  magnitude has none of them behind the point: all stand in
  front of it, or the only one stands before an exponent.
-/
def LeavesNoFraction
    (digits : Nat)
    (exponent : Int) : Prop :=
  exponent = digits - 1 ∨
    digits = 1 ∧ ¬ (-4 ≤ exponent ∧ exponent < digits)

instance
    (digits : Nat)
    (exponent : Int) :
    Decidable (LeavesNoFraction digits exponent) :=
  inferInstanceAs (Decidable (_ ∨ _))

namespace Ratio

theorem count_point_fixedText
    (r : Ratio)
    (places : Nat) :
    (r.fixedText places true).count '.' = 1 := by
  rw [fixedText, List.count_append, fixed, count_point_withPoint,
    count_point_barePoint]
  split
  · rfl
  · rfl

theorem places_scientific
    (r : Ratio)
    (places : Nat) :
    (r.scientific places).places = places := by
  unfold scientific
  simp only
  split
  · rfl
  · split
    · rfl
    · rfl

theorem count_point_scientificText
    (r : Ratio)
    (places : Nat) :
    (r.scientificText places true).count '.' = 1 := by
  rw [scientificText_eq, List.count_append, List.count_append,
    Scientific.mantissa, places_scientific,
    count_point_withPoint, count_point_barePoint,
    count_point_exponentText]
  split
  · rfl
  · rfl

theorem log_significant_of_num_eq_zero
    {r : Ratio}
    (hZero : r.num = 0)
    (digits : Nat) :
    Int.log 10 (significant digits r.value) = 0 := by
  have hValue : r.value = 0 := by
    rw [value, hZero, Nat.cast_zero, zero_div]
  have hRounded : roundEven 0 = 0 :=
    le_antisymm (roundEven_le (by norm_num))
      (le_roundEven (by norm_num))
  rw [hValue, significant, zero_mul, hRounded, Int.cast_zero,
    zero_div, Int.log_zero_right]

/- General notation writes no bare point. -/
theorem count_point_general
    (r : Ratio)
    (precision : Nat) :
    (r.general precision true).count '.' =
      if LeavesNoFraction (max precision 1)
          (Int.log 10
            (significant (max precision 1) r.value)) then
        0
      else
        1 := by
  rcases Nat.exists_eq_add_of_le' (le_max_right precision 1) with
    ⟨places, hDigits⟩
  by_cases hZero : r.num = 0
  · rw [log_significant_of_num_eq_zero hZero]
    unfold general
    simp only [hZero, if_true, fixed]
    rw [count_point_withPoint]
    refine if_congr ?_ rfl rfl
    unfold LeavesNoFraction
    omega
  · have hRounds := rounds_scientific hZero places
    rw [general_eq hZero hDigits true rfl, hDigits,
      hRounds.log_eq]
    generalize r.scientific places = s at hRounds ⊢
    split
    case isTrue hFixed =>
        rw [Pointed.shown, if_pos rfl, Pointed.count_point_ofUnits]
        refine if_congr ?_ rfl rfl
        unfold LeavesNoFraction
        omega
    case isFalse hPower =>
        rw [List.count_append, count_point_exponentText,
          Pointed.shown, if_pos rfl, Pointed.count_point_ofUnits]
        refine if_congr ?_ rfl rfl
        unfold LeavesNoFraction
        omega

end Ratio

end LogLine

------------------------------------------------------------
-- Case, Separators and Padding
------------------------------------------------------------

namespace LogLine

/- A letter in upper case is no point. -/
theorem toUpper_eq_point_iff
    (c : Char) :
    c.toUpper = '.' ↔ c = '.' := by
  constructor
  · intro hUpper
    unfold Char.toUpper at hUpper
    split at hUpper
    case isTrue hLower =>
        have hLow : 97 ≤ c.val.toNat :=
          UInt32.le_iff_toNat_le.mp hLower.1
        have hHigh : c.val.toNat ≤ 122 :=
          UInt32.le_iff_toNat_le.mp hLower.2
        have hValue :=
          congrArg (fun d : Char => d.val.toNat) hUpper
        simp only [UInt32.toNat_add] at hValue
        change (c.val.toNat + 4294967264) % 4294967296 = 46
          at hValue
        omega
    case isFalse => exact hUpper
  · rintro rfl
    rfl

theorem Text.count_point_upperAscii
    (text : Text) :
    text.upperAscii.count '.' = text.count '.' := by
  rw [Text.upperAscii, List.count_eq_countP, List.countP_map,
    List.count_eq_countP]
  apply List.countP_congr
  intro c _
  simp [toUpper_eq_point_iff]

theorem count_point_groupWhole
    {separator : Char}
    (hOther : separator ≠ '.')
    (number : Text) :
    (groupWhole separator number).count '.' =
      number.count '.' := by
  have hDigits (digits : Text) :
      (groupDigits separator 3 digits).filter (· == '.') =
        digits.filter (· == '.') :=
    @filter_groupDigits separator (· == '.')
      (beq_eq_false_iff_ne.mpr hOther) 3 digits
  rw [List.count_eq_length_filter, List.count_eq_length_filter,
    groupWhole, List.filter_append, hDigits,
    ← List.filter_append, List.takeWhile_append_dropWhile]

theorem FilledUp.count_eq
    {fill mark : Char}
    {count : Nat}
    {lead rest text : Text}
    {align : Align}
    (hFilled : FilledUp fill count lead rest align text)
    (hOther : fill ≠ mark) :
    text.count mark = (lead ++ rest).count mark := by
  have hNone (n : Nat) : (List.replicate n fill).count mark = 0 :=
    List.count_eq_zero_of_not_mem fun hMem =>
      hOther (List.mem_replicate.mp hMem).2.symm
  cases hFilled with
  | left => rw [List.count_append, hNone, Nat.add_zero]
  | right => rw [List.count_append, hNone, Nat.zero_add]
  | center =>
      rw [List.count_append, List.count_append, hNone, hNone,
        Nat.zero_add, Nat.add_zero]
  | afterSign =>
      rw [List.count_append, List.count_append, hNone,
        Nat.add_zero, List.count_append]

end LogLine

------------------------------------------------------------
-- Specs in the Alternate Form
------------------------------------------------------------

namespace LogLine

namespace Spec

/- The codes of general notation. -/
def generalCodes : List Char :=
  ['g', 'G', 'n']

/- The codes of the other notations with a fraction. -/
def pointedCodes : List Char :=
  ['e', 'E', 'f', 'F', '%']

/-
  The alternate form under a code of fractions.  The fill and
  the separator are no points themselves, and the code allows
  the separator.
-/
structure AsksForPoint
    (spec : Spec) : Prop where
  alternate : spec.alternate = true
  code :
    ∃ code ∈ pointedCodes ++ generalCodes, spec.code = some code
  fill : spec.fill ≠ some '.'
  grouping :
    ∀ separator ∈ spec.grouping,
      separator ≠ '.' ∧ spec.code ≠ some 'n'

/- The number has a value, and as a percentage one too. -/
structure CanWrite
    (spec : Spec)
    (x : Binary64) : Prop where
  finite : x.isFinite = true
  hundredfold :
    spec.code = some '%' →
      (x.abs.timesNat 100).isFinite = true

/- How many digits general notation shows of a number. -/
def shownDigits
    (spec : Spec) :
    Nat :=
  max (spec.precision.getD 6) 1

/- General notation shows no digit of the number as fraction. -/
def LosesPoint
    (spec : Spec)
    (x : Binary64) : Prop :=
  (∃ code ∈ generalCodes, spec.code = some code) ∧
    LeavesNoFraction spec.shownDigits
      (Int.log 10 (significant spec.shownDigits x.magnitude.value))

instance
    (spec : Spec)
    (x : Binary64) :
    Decidable (spec.LosesPoint x) :=
  inferInstanceAs (Decidable (_ ∧ _))

variable {spec : Spec}
variable {x : Binary64}

theorem finiteText_of_general
    {code : Char}
    (hMem : code ∈ generalCodes)
    (hCode : spec.code = some code)
    (x : Binary64) :
    spec.finiteText x =
      .ok
        (x.magnitude.general (spec.precision.getD 6)
          spec.alternate) := by
  unfold generalCodes at hMem
  simp only [List.mem_cons, List.not_mem_nil, or_false] at hMem
  unfold finiteText
  rw [hCode]
  rcases hMem with rfl | rfl | rfl
  all_goals rfl

theorem count_point_percentText
    (hAlternate : spec.alternate = true)
    (hFinite : (x.abs.timesNat 100).isFinite = true)
    (places : Nat) :
    (spec.percentText x places).count '.' = 1 := by
  unfold percentText
  simp only [hFinite, if_true, hAlternate]
  rw [List.count_append, Ratio.count_point_fixedText]
  rfl

/- Without fraction digits these notations add a bare point. -/
theorem exists_finiteText_of_pointed
    {code : Char}
    (hMem : code ∈ pointedCodes)
    (hCode : spec.code = some code)
    (hAlternate : spec.alternate = true)
    (hValue : spec.CanWrite x) :
    ∃ text, spec.finiteText x = .ok text ∧ text.count '.' = 1 := by
  unfold pointedCodes at hMem
  simp only [List.mem_cons, List.not_mem_nil, or_false] at hMem
  unfold finiteText
  rw [hCode, hAlternate]
  rcases hMem with rfl | rfl | rfl | rfl | rfl
  · exact ⟨_, rfl, Ratio.count_point_scientificText _ _⟩
  · exact ⟨_, rfl, Ratio.count_point_scientificText _ _⟩
  · exact ⟨_, rfl, Ratio.count_point_fixedText _ _⟩
  · exact ⟨_, rfl, Ratio.count_point_fixedText _ _⟩
  · have hFinite := hValue.hundredfold hCode
    exact ⟨_, rfl, count_point_percentText hAlternate hFinite _⟩

theorem not_mem_generalCodes_of_pointed :
    ∀ code ∈ pointedCodes, code ∉ generalCodes := by
  decide

/- Only general notation can lose the point. -/
theorem exists_finiteText
    (hSpec : spec.AsksForPoint)
    (hValue : spec.CanWrite x) :
    ∃ text,
      spec.finiteText x = .ok text ∧
        text.count '.' = if spec.LosesPoint x then 0 else 1 := by
  rcases hSpec.code with ⟨code, hMem, hCode⟩
  rcases List.mem_append.mp hMem with hPointed | hGeneral
  · rcases
      exists_finiteText_of_pointed hPointed hCode hSpec.alternate
        hValue with
      ⟨text, hText, hCount⟩
    refine ⟨text, hText, ?_⟩
    rw [hCount, if_neg]
    rintro ⟨⟨other, hOther, hSame⟩, -⟩
    cases hCode.symm.trans hSame
    exact not_mem_generalCodes_of_pointed code hPointed hOther
  · refine ⟨_, finiteText_of_general hGeneral hCode x, ?_⟩
    rw [hSpec.alternate, Ratio.count_point_general]
    refine if_congr ?_ rfl rfl
    constructor
    · exact fun hNone => ⟨⟨code, hGeneral, hCode⟩, hNone⟩
    · exact fun hLost => hLost.2

theorem count_point_signText
    (spec : Spec)
    (negative : Bool) :
    (spec.signText negative).count '.' = 0 := by
  unfold signText
  split
  · rfl
  · split
    all_goals rfl

/- Neither the case nor separators change how often it stands. -/
theorem exists_floatBody
    (hSpec : spec.AsksForPoint)
    (hValue : spec.CanWrite x) :
    ∃ body,
      spec.floatBody x = .ok body ∧
        body.unpadded.count '.' =
          if spec.LosesPoint x then 0 else 1 := by
  rcases exists_finiteText hSpec hValue with
    ⟨number, hNumber, hCount⟩
  have hMagnitude :
      ∃ text,
        spec.magnitudeText x = .ok text ∧
          text.count '.' = number.count '.' := by
    unfold magnitudeText
    rw [if_pos hValue.finite, hNumber]
    refine ⟨_, rfl, ?_⟩
    split
    · exact number.count_point_upperAscii
    · rfl
  rcases hMagnitude with ⟨text, hText, hSame⟩
  have hGrouped :
      ∃ grouped,
        spec.grouped text = .ok grouped ∧
          grouped.count '.' = text.count '.' := by
    unfold grouped
    cases hGrouping : spec.grouping with
    | none => exact ⟨text, rfl, rfl⟩
    | some separator =>
        rcases hSpec.grouping separator hGrouping with
          ⟨hOther, hAllowed⟩
        simp only [if_neg hAllowed]
        exact ⟨_, rfl, count_point_groupWhole hOther text⟩
  rcases hGrouped with ⟨grouped, hGrouped, hKept⟩
  refine
    ⟨⟨spec.signText (x.negative && !x.isNaN), grouped, true⟩,
      ?_, ?_⟩
  · rw [floatBody, hText]
    show (spec.grouped text >>= _) = _
    rw [hGrouped]
    rfl
  · rw [Body.unpadded, List.count_append, count_point_signText,
      Nat.zero_add, hKept, hSame, hCount]

theorem padChar_ne_point
    (hFill : spec.fill ≠ some '.') :
    spec.padChar ≠ '.' := by
  unfold padChar
  cases hGiven : spec.fill with
  | none =>
      rw [Option.getD_none]
      split
      · decide
      · decide
  | some fill =>
      rintro rfl
      exact hFill hGiven

end Spec

/-
  A finite number in the alternate form can always be written,
  with exactly one point; only general notation leaves the
  point out, where no digit that it shows is a fraction.
-/
theorem alternate_form_shows_point
    {spec : Spec}
    {x : Binary64}
    (hSpec : spec.AsksForPoint)
    (hValue : spec.CanWrite x) :
    ∃ text,
      spec.apply (.float x) = .ok text ∧
        text.count '.' = if spec.LosesPoint x then 0 else 1 := by
  rcases Spec.exists_floatBody hSpec hValue with
    ⟨body, hBody, hCount⟩
  have hFilled := spec.filledUp_pad body
  refine ⟨spec.pad body, ?_, ?_⟩
  · rw [Spec.apply, Spec.body, hBody]
    rfl
  · rw [hFilled.count_eq (Spec.padChar_ne_point hSpec.fill)]
    exact hCount

/- Three digits, all of which stand in front of the point. -/
def threeDigitSpec : Spec :=
  { Spec.blank with
    alternate := true
    precision := some 3
    code := some 'g' }

/- The number nearest to 123.456. -/
def threeDigitNumber : Binary64 :=
  .ofBits 4638387860618067575

theorem asksForPoint_threeDigitSpec :
    threeDigitSpec.AsksForPoint where
  alternate := rfl
  code := ⟨'g', by decide, rfl⟩
  fill := nofun
  grouping := nofun

theorem canWrite_threeDigitNumber :
    threeDigitSpec.CanWrite threeDigitNumber where
  finite := by decide +kernel
  hundredfold := by decide

theorem apply_threeDigitSpec :
    threeDigitSpec.apply (.float threeDigitNumber) =
      .ok "123".toList := by
  decide +kernel

/- So the alternate form does not always show a point. -/
theorem alternate_form_loses_point :
    ¬ ∀ (spec : Spec) (x : Binary64),
      spec.AsksForPoint →
      spec.CanWrite x →
        ∃ text,
          spec.apply (.float x) = .ok text ∧
            text.count '.' = 1 := by
  intro hAlways
  rcases
    hAlways threeDigitSpec threeDigitNumber
      asksForPoint_threeDigitSpec canWrite_threeDigitNumber with
    ⟨text, hText, hCount⟩
  rw [apply_threeDigitSpec] at hText
  cases hText
  exact absurd hCount (by decide)

theorem alternate_form_shows_point_of_three_digits :
    threeDigitSpec.AsksForPoint ∧
      threeDigitSpec.CanWrite threeDigitNumber ∧
      threeDigitSpec.apply (.float threeDigitNumber) =
        .ok "123".toList ∧
      threeDigitSpec.LosesPoint threeDigitNumber := by
  rcases
    alternate_form_shows_point asksForPoint_threeDigitSpec
      canWrite_threeDigitNumber with
    ⟨text, hText, hCount⟩
  rw [apply_threeDigitSpec] at hText
  cases hText
  refine
    ⟨asksForPoint_threeDigitSpec, canWrite_threeDigitNumber,
      apply_threeDigitSpec, ?_⟩
  by_contra hShown
  rw [if_neg hShown] at hCount
  exact absurd hCount (by decide)

end LogLine
