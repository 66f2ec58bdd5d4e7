import LogLine.Proofs.Format.Padding
import LogLine.Proofs.Format.Grouping
import LogLine.Template.NamePattern

/-
  Integers by their digits are read back as they were: neither
  the base nor a sign, separators or zeros in front lose
  anything.

  Key definitions include:
    * `LogLine.readInteger?`
    * `LogLine.Spec.WritesDigits`
    * `LogLine.Spec.ShowsInteger`

  Key theorems include:
    * `LogLine.Spec.readInteger?_signText_append`
    * `LogLine.integers_lose_nothing`
-/

------------------------------------------------------------
-- Reading Integers
------------------------------------------------------------

namespace LogLine

/- What a digit stands for; only the code `X` has large letters. -/
def digitValue?
    (code c : Char) :
    Option Nat :=
  if '0' ≤ c ∧ c ≤ '9' then
    some (c.toNat - '0'.toNat)
  else if code = 'x' ∧ 'a' ≤ c ∧ c ≤ 'f' then
    some (c.toNat - 'a'.toNat + 10)
  else if code = 'X' ∧ 'A' ≤ c ∧ c ≤ 'F' then
    some (c.toNat - 'A'.toNat + 10)
  else
    none

/-
  The number that digits of a code give, which must be there
  and must be small enough for its base.
-/
def readDigits?
    (code : Char)
    (digits : Text) :
    Option Nat :=
  if digits.isEmpty then
    none
  else
    Text.numberIn? (radixOf code)
      (fun c => (digitValue? code c).filter (· < radixOf code))
      digits

/-
  The integer that a text gives: a sign if there is one, the
  mark of the base, and digits with separators, which are
  dropped.
-/
def readInteger?
    (code : Char)
    (mark text : Text) :
    Option Int := do
  let (sign, text) := Spec.takeSign text
  let digits ← text.dropPrefix? mark
  let magnitude ←
    readDigits? code
      (digits.filter fun c => !SpecParts.isGroupingChar c)
  return if sign = some .minus then -magnitude else magnitude

end LogLine

------------------------------------------------------------
-- Digits of a Code
------------------------------------------------------------

namespace LogLine

variable {code : Char}
variable {base : Base}

theorem digitValue?_inCaseOf_digitChar :
    ∀ code ∈ digitCodes, ∀ d < radixOf code,
      digitValue? code (inCaseOf code (Nat.digitChar d)) =
        some d := by
  decide

theorem isGroupingChar_of_isAlphanum
    {c : Char}
    (hClass : c.isAlphanum = true) :
    SpecParts.isGroupingChar c = false := by
  apply decide_eq_false
  intro hMem
  rcases List.mem_pair.mp hMem with rfl | rfl
  · exact absurd hClass (by decide)
  · exact absurd hClass (by decide)

/- Zeros in front of the digits of a number change nothing. -/
theorem readDigits?_replicate_append_digits
    (hBase : Base.ofCode? code = some base)
    (count n : Nat) :
    readDigits? code
        (List.replicate count '0' ++ base.digits n) =
      some n := by
  rcases Base.of_ofCode? hBase with ⟨hCode, -⟩
  have hSome :
      List.replicate count '0' ++ base.digits n ≠ [] :=
    List.append_ne_nil_of_right_ne_nil _
      (Base.digits_ne_nil hBase n)
  have hZero :
      (digitValue? code '0').filter (· < radixOf code) =
        some 0 := by
    have hPos := Nat.zero_lt_of_lt (one_lt_radixOf code)
    exact Option.filter_some_pos (by simpa using hPos)
  rw [readDigits?, if_neg (by simpa using hSome),
    Text.numberIn?_replicate_append hZero,
    Base.digits_eq_map hBase, Text.numberIn?, List.foldlM_map]
  refine Text.numberIn?_toDigits (one_lt_radixOf code) ?_ n
  intro d hSmall
  rw [digitValue?_inCaseOf_digitChar code hCode d hSmall]
  simp [hSmall]

/- Without their separators the digits are those of the number. -/
theorem filter_groupingChar_of_groupedDigits
    (hBase : Base.ofCode? code = some base)
    {grouping : Option Char}
    (hGrouping :
      ∀ separator ∈ grouping,
        SpecParts.isGroupingChar separator = true)
    {n : Nat}
    {digits : Text}
    (hDigits : base.groupedDigits grouping code n = .ok digits) :
    digits.filter (fun c => !SpecParts.isGroupingChar c) =
      base.digits n := by
  have hPlain :
      (base.digits n).filter
          (fun c => !SpecParts.isGroupingChar c) =
        base.digits n := by
    rw [List.filter_eq_self]
    intro c hMem
    rw [isGroupingChar_of_isAlphanum
      (Base.isAlphanum_of_mem_digits hBase hMem)]
    rfl
  unfold Base.groupedDigits at hDigits
  split at hDigits
  · cases hDigits
    exact hPlain
  · split at hDigits
    · cases hDigits
      rw [filter_groupDigits (by simp [hGrouping _ rfl])]
      exact hPlain
    · cases hDigits

end LogLine

------------------------------------------------------------
-- Signs and Marks
------------------------------------------------------------

namespace LogLine

namespace Spec

/- The sign is read as it was asked for. -/
theorem takeSign_signText_append
    (spec : Spec)
    (negative : Bool)
    {rest : Text}
    (hStarts : Text.StartsIn Char.isAlphanum rest) :
    takeSign (spec.signText negative ++ rest) =
      (if negative then
          some .minus
        else
          spec.sign.filter (· != .minus),
        rest) := by
  unfold signText
  cases negative with
  | true => rfl
  | false =>
      cases hSign : spec.sign with
      | none => exact takeSign_of_startsIn hStarts
      | some sign =>
          cases sign with
          | minus => exact takeSign_of_startsIn hStarts
          | plus => rfl
          | space => rfl

theorem startsIn_replicate_append
    (count : Nat)
    {digits : Text}
    (hStarts : Text.StartsIn Char.isAlphanum digits) :
    Text.StartsIn Char.isAlphanum
      (List.replicate count '0' ++ digits) := by
  cases count with
  | zero => exact hStarts
  | succ count => exact Text.startsIn_cons.mpr rfl

/- What marks a base begins with a digit, if anything does. -/
theorem startsIn_baseMark_append
    (spec : Spec)
    {rest : Text}
    (hStarts : Text.StartsIn Char.isAlphanum rest) :
    Text.StartsIn Char.isAlphanum (spec.baseMark ++ rest) := by
  unfold baseMark markerOf
  split
  · split
    case h_5 => exact hStarts
    all_goals exact Text.startsIn_cons.mpr rfl
  · exact hStarts

end Spec

end LogLine

------------------------------------------------------------
-- Specs for Digits
------------------------------------------------------------

namespace LogLine

/- Separators that the digits of a code cannot be grouped by. -/
def RefusesGrouping
    (code separator : Char) : Prop :=
  code = 'n' ∨
    separator = ',' ∧ code ∈ ['b', 'o', 'x', 'X']

instance
    (code separator : Char) :
    Decidable (RefusesGrouping code separator) :=
  inferInstanceAs (Decidable (_ ∨ _))

/- How many digits stand in a group. -/
def groupSize
    (code : Char) :
    Nat :=
  if radixOf code = 10 then 3 else 4

theorem groupSize_pos
    (code : Char) :
    0 < groupSize code := by
  unfold groupSize
  split <;> omega

theorem Base.lookup_groupings
    {code separator : Char}
    {base : Base}
    (hBase : ofCode? code = some base)
    (hSeparator : SpecParts.isGroupingChar separator = true) :
    base.groupings.lookup separator =
      if RefusesGrouping code separator then
        none
      else
        some (groupSize code) := by
  rcases List.mem_pair.mp (of_decide_eq_true hSeparator)
    with rfl | rfl
  all_goals
    unfold ofCode? at hBase
    split at hBase
    case h_7 => cases hBase
    all_goals
      cases hBase
      rfl

/- A number is written in groups unless the code refuses them. -/
theorem Base.exists_groupedDigits_eq_ok
    {code : Char}
    {base : Base}
    (hBase : ofCode? code = some base)
    {grouping : Option Char}
    (hGrouping :
      ∀ separator ∈ grouping,
        SpecParts.isGroupingChar separator = true)
    (hAllowed :
      ∀ separator ∈ grouping, ¬ RefusesGrouping code separator)
    (n : Nat) :
    ∃ digits,
      base.groupedDigits grouping code n = .ok digits ∧
        ∀ separator ∈ grouping,
          digits =
            groupDigits separator (groupSize code)
              (base.digits n) := by
  cases grouping with
  | none => exact ⟨_, rfl, fun _ hNone => by cases hNone⟩
  | some separator =>
      have hSize := lookup_groupings hBase (hGrouping _ rfl)
      rw [if_neg (hAllowed _ rfl)] at hSize
      refine ⟨_, by rw [groupedDigits, hSize], ?_⟩
      rintro _ ⟨⟩
      rfl

namespace Spec

/-
  Specs that write integers by their digits, with separators of
  the grammar and with no padding but zeros behind the sign.
-/
structure WritesDigits
    (spec : Spec) : Prop where
  code : spec.integerCode ∈ digitCodes
  precision : spec.precision = none
  grouping :
    ∀ separator ∈ spec.grouping,
      SpecParts.isGroupingChar separator = true
  width :
    spec.width = none ∨
      spec.zero = true ∧ spec.fill = none ∧ spec.align = none

variable {spec : Spec}

theorem WritesDigits.exists_base
    (hSpec : spec.WritesDigits) :
    ∃ base, Base.ofCode? spec.integerCode = some base := by
  have hFound :
      ∀ code ∈ digitCodes, (Base.ofCode? code).isSome = true := by
    decide
  exact Option.isSome_iff_exists.mp (hFound _ hSpec.code)

theorem WritesDigits.integerBody_eq
    (hSpec : spec.WritesDigits)
    {base : Base}
    (hBase : Base.ofCode? spec.integerCode = some base)
    (n : Int64) :
    spec.integerBody n =
      spec.digitsBody spec.integerCode base n := by
  have hOther :
      ∀ code ∈ digitCodes, code ∉ floatCodes ∧ code ≠ 'c' := by
    decide
  rcases hOther _ hSpec.code with ⟨hFloat, hCharacter⟩
  unfold integerCode at hBase hFloat hCharacter ⊢
  unfold integerBody
  simp [hFloat, hCharacter, hSpec.precision, hBase]

/- Zeros stand between the sign and the digits, or nowhere. -/
theorem WritesDigits.pad_eq
    (hSpec : spec.WritesDigits)
    {body : Body}
    (hNumeric : body.numeric = true) :
    spec.pad body =
      body.lead ++
        (List.replicate
            (spec.width.getD 0 - body.unpadded.length) '0' ++
          body.text) := by
  have hFilled := spec.filledUp_pad body
  rcases hSpec.width with hWidth | ⟨hZero, hFill, hAlign⟩
  · rw [hWidth, Option.getD_none, Nat.zero_sub] at hFilled ⊢
    exact hFilled.eq_of_count_eq_zero rfl
  · have hPadAlign : spec.padAlign body.numeric = .afterSign := by
      simp [padAlign, hAlign, hNumeric, hZero]
    have hPadChar : spec.padChar = '0' := by
      simp [padChar, hFill, hZero]
    rw [hPadAlign, hPadChar] at hFilled
    generalize spec.pad body = text at hFilled ⊢
    cases hFilled with
    | afterSign => exact List.append_assoc _ _ _

/- How many zeros a width puts in front of digits. -/
def zerosBefore
    (spec : Spec)
    (n : Int64)
    (digits : Text) :
    Nat :=
  spec.width.getD 0 -
    (spec.signText (n.toInt < 0) ++ spec.baseMark ++
      digits).length

/- An integer by its sign, its mark, zeros and its digits. -/
theorem WritesDigits.apply_eq
    (hSpec : spec.WritesDigits)
    {base : Base}
    (hBase : Base.ofCode? spec.integerCode = some base)
    (n : Int64) :
    spec.apply (.int n) =
      (base.groupedDigits spec.grouping spec.integerCode
          n.toInt.natAbs).map fun digits =>
        spec.signText (n.toInt < 0) ++
          (spec.baseMark ++
            (List.replicate (spec.zerosBefore n digits) '0' ++
              digits)) := by
  rcases Base.of_ofCode? hBase with ⟨-, -, hMarker, -⟩
  rw [apply, body, hSpec.integerBody_eq hBase,
    digitsBody_eq_map, hMarker, ← baseMark]
  cases base.groupedDigits spec.grouping spec.integerCode
      n.toInt.natAbs with
  | error failure => rfl
  | ok digits =>
      refine congrArg Except.ok ?_
      rw [hSpec.pad_eq rfl, List.append_assoc]
      rfl

end Spec

end LogLine

------------------------------------------------------------
-- Integers and Their Texts
------------------------------------------------------------

namespace LogLine

namespace Spec

variable {spec : Spec}

/-
  A text that shows an integer in the way that a spec asks for.
  Groups are cut from the right, so that only the first can
  have fewer digits; a width would put zeros in front of them.
-/
structure ShowsInteger
    (spec : Spec)
    (n : Int64)
    (text : Text) : Prop where
  value :
    readInteger? spec.integerCode spec.baseMark text =
      some n.toInt
  negative :
    (takeSign text).1 = some .minus ↔ n.toInt < 0
  sign :
    0 ≤ n.toInt →
      (takeSign text).1 = spec.sign.filter (· != .minus)
  groups :
    ∀ separator ∈ spec.grouping,
      spec.width = none →
        ∃ groups : DigitGroups (groupSize spec.integerCode),
          (takeSign text).2 =
            spec.baseMark ++ groups.text separator ∧
          separator ∉ groups.digits ∧
          (groups.text separator).head? ≠ some separator ∧
          (groups.text separator).getLast? ≠ some separator

variable {base : Base}

/- Digits in their groups, with a sign and a mark in front. -/
theorem readInteger?_signText_append
    (hBase : Base.ofCode? spec.integerCode = some base)
    (hGrouping :
      ∀ separator ∈ spec.grouping,
        SpecParts.isGroupingChar separator = true)
    (n : Int)
    (count : Nat)
    {digits : Text}
    (hDigits :
      base.groupedDigits spec.grouping spec.integerCode
          n.natAbs =
        .ok digits) :
    readInteger? spec.integerCode spec.baseMark
        (spec.signText (n < 0) ++
          (spec.baseMark ++
            (List.replicate count '0' ++ digits))) =
      some n := by
  have hStarts :=
    startsIn_replicate_append count
      (Base.startsIn_of_groupedDigits hBase hDigits)
  have hFilter :
      (List.replicate count '0' ++ digits).filter
          (fun c => !SpecParts.isGroupingChar c) =
        List.replicate count '0' ++ base.digits n.natAbs := by
    rw [List.filter_append, List.filter_replicate,
      filter_groupingChar_of_groupedDigits hBase hGrouping
        hDigits]
    rfl
  rw [readInteger?,
    spec.takeSign_signText_append _
      (spec.startsIn_baseMark_append hStarts)]
  simp only
  rw [List.dropPrefix?_append_of_beq _ (BEq.refl _)]
  simp only [Option.bind_eq_bind, Option.bind_some]
  rw [hFilter, readDigits?_replicate_append_digits hBase,
    Option.bind_some]
  apply congrArg some
  by_cases hNegative : n < 0
  · rw [if_pos (decide_eq_true hNegative), if_pos rfl]
    omega
  · have hSign :
        spec.sign.filter (· != .minus) ≠ some .minus := by
      intro hMinus
      rcases Option.filter_eq_some_iff.mp hMinus with ⟨-, hKept⟩
      exact absurd hKept (by decide)
    rw [if_neg (mt of_decide_eq_true hNegative), if_neg hSign]
    omega

/- The groups of a number hold no separator. -/
theorem exists_groups_eq
    (hBase : Base.ofCode? spec.integerCode = some base)
    {separator : Char}
    (hSeparator : SpecParts.isGroupingChar separator = true)
    (n : Nat) :
    ∃ groups : DigitGroups (groupSize spec.integerCode),
      groupDigits separator (groupSize spec.integerCode)
          (base.digits n) =
        groups.text separator ∧
      separator ∉ groups.digits := by
  rcases
    exists_digitGroups separator (groupSize_pos spec.integerCode)
      (Base.digits_ne_nil hBase n) with
    ⟨groups, hDigits, hText⟩
  refine ⟨groups, hText, ?_⟩
  intro hMem
  rw [hDigits] at hMem
  have hPlain :=
    isGroupingChar_of_isAlphanum
      (Base.isAlphanum_of_mem_digits hBase hMem)
  rw [hSeparator] at hPlain
  exact absurd hPlain (by decide)

theorem WritesDigits.showsInteger
    (hSpec : spec.WritesDigits)
    (hBase : Base.ofCode? spec.integerCode = some base)
    (n : Int64)
    {digits : Text}
    (hDigits :
      base.groupedDigits spec.grouping spec.integerCode
          n.toInt.natAbs =
        .ok digits)
    (hGroups :
      ∀ separator ∈ spec.grouping,
        digits =
          groupDigits separator (groupSize spec.integerCode)
            (base.digits n.toInt.natAbs)) :
    spec.ShowsInteger n
      (spec.signText (n.toInt < 0) ++
        (spec.baseMark ++
          (List.replicate (spec.zerosBefore n digits) '0' ++
            digits))) := by
  have hSign :=
    spec.takeSign_signText_append (n.toInt < 0)
      (spec.startsIn_baseMark_append
        (startsIn_replicate_append (spec.zerosBefore n digits)
          (Base.startsIn_of_groupedDigits hBase hDigits)))
  constructor
  case value =>
      exact
        readInteger?_signText_append hBase hSpec.grouping _ _
          hDigits
  case negative =>
      rw [hSign]
      by_cases hNegative : n.toInt < 0
      · simp [hNegative]
      · simp [hNegative]
  case sign =>
      intro hNonneg
      rw [hSign]
      simp [Int.not_lt.mpr hNonneg]
  case groups =>
      intro separator hSeparator hWidth
      rcases
        exists_groups_eq hBase
          (hSpec.grouping separator hSeparator)
          n.toInt.natAbs with
        ⟨groups, hText, hOther⟩
      refine
        ⟨groups, ?_, hOther, groups.separator_inside hOther⟩
      rw [hSign, zerosBefore, hWidth, Option.getD_none,
        Nat.zero_sub, ← hText, ← hGroups separator hSeparator]
      rfl

end Spec

/-
  An integer is written unless its digits cannot be grouped as
  asked for, and what is written shows it: with its sign, its
  groups, and its value.
-/
theorem integers_lose_nothing
    {spec : Spec}
    (hSpec : spec.WritesDigits)
    (n : Int64) :
    (∀ separator ∈ spec.grouping,
      RefusesGrouping spec.integerCode separator →
        spec.apply (.int n) =
          .error
            (.groupingWithCode separator spec.integerCode)) ∧
    ((∀ separator ∈ spec.grouping,
        ¬ RefusesGrouping spec.integerCode separator) →
      ∃ text,
        spec.apply (.int n) = .ok text ∧
          spec.ShowsInteger n text) := by
  rcases hSpec.exists_base with ⟨base, hBase⟩
  have hApply := hSpec.apply_eq hBase n
  refine ⟨?_, ?_⟩
  · intro separator hSeparator hRefuses
    have hSize :=
      Base.lookup_groupings hBase
        (hSpec.grouping separator hSeparator)
    rw [if_pos hRefuses] at hSize
    rw [hApply, Option.mem_def.mp hSeparator,
      Base.groupedDigits, hSize]
    rfl
  · intro hAllowed
    rcases
      Base.exists_groupedDigits_eq_ok hBase hSpec.grouping
        hAllowed n.toInt.natAbs with
      ⟨digits, hDigits, hGroups⟩
    rw [hDigits] at hApply
    exact ⟨_, hApply, hSpec.showsInteger hBase n hDigits hGroups⟩

/- Signed hexadecimal digits in groups, with their mark. -/
def markedSpec : Spec :=
  { Spec.blank with
    sign := some .plus
    alternate := true
    grouping := some '_'
    code := some 'x' }

theorem integers_lose_nothing_of_minimum :
    markedSpec.WritesDigits ∧
      ∃ text,
        markedSpec.apply (.int Int64.minValue) = .ok text ∧
          text = "-0x8000_0000_0000_0000".toList ∧
          markedSpec.ShowsInteger Int64.minValue text := by
  have hSpec : markedSpec.WritesDigits := by
    refine ⟨by decide, rfl, ?_, .inl rfl⟩
    rintro _ ⟨⟩
    rfl
  have hAllowed :
      ∀ separator ∈ markedSpec.grouping,
        ¬ RefusesGrouping markedSpec.integerCode separator := by
    rintro _ ⟨⟩
    decide
  rcases
    (integers_lose_nothing hSpec Int64.minValue).2 hAllowed with
    ⟨text, hText, hShows⟩
  have hResult :
      markedSpec.apply (.int Int64.minValue) =
        .ok "-0x8000_0000_0000_0000".toList := by
    decide +kernel
  rw [hResult] at hText
  cases hText
  exact ⟨hSpec, _, hResult, rfl, hShows⟩

end LogLine
