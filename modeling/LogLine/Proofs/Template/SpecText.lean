import LogLine.Proofs.Format.SpecGrammar
import Mathlib.Tactic.ByContra

/-
  The pattern of spec texts, and what the reader of specs
  makes of a text that fits it.

  Key definitions include:
    * `LogLine.SpecParts.Fits`
    * `LogLine.behindFill`
    * `LogLine.ForeignDigit`
    * `LogLine.HugeCount`
    * `LogLine.isSpecChar`

  Key theorems include:
    * `LogLine.SpecParts.ofText?_eq_some_iff`
    * `LogLine.isSpecText_iff`
    * `LogLine.isSpecChar_of_isSpecText`
    * `LogLine.foreignDigit_or_hugeCount`
    * `LogLine.pattern_and_reader_agree`

  The pattern allows digits of any script and words in braces
  where the reader takes digits of ASCII only, and it restricts
  the fill and the code where the reader does not.
-/

------------------------------------------------------------
-- The Pattern
------------------------------------------------------------

namespace LogLine

namespace SpecParts

/- An alignment may have a fill; a line feed is none. -/
inductive AlignFits : Text → Prop where
  | filled
      {fill align : Char}
      (hFill : fill ≠ '\n')
      (hAlign : isAlignChar align = true) :
      AlignFits [fill, align]
  | unfilled
      {align : Char}
      (hAlign : isAlignChar align = true) :
      AlignFits [align]
  | absent : AlignFits []

/-
  The parts are a match of the pattern, group by group:

    ([fill] align)? sign? "#"? "0"? count?
      grouping? ("." count)? code?
-/
structure Fits
    (parts : SpecParts) : Prop extends InClasses parts where
  align : AlignFits parts.align
  code : ∀ c ∈ parts.code, isCodeChar c = true

/- A zero in front of the width is the flag. -/
def ZeroIsFlag
    (parts : SpecParts) : Prop :=
  FlagTaken '0' parts.zero parts.fromWidth

end SpecParts

end LogLine

------------------------------------------------------------
-- Characters of a Match
------------------------------------------------------------

namespace LogLine

namespace SpecParts

/- No digit of any script is among what may follow a count. -/
theorem isDecimalDigit_eq_false :
    ∀ c ∈ ['{', '.', ',', '_', '\u017f'] ++
        "bcdefgnosxBCDEFGNOSX%".toList,
      isDecimalDigit c = false := by
  decide

/- A code is none of the characters that stand in front of it. -/
theorem classes_of_isCodeChar
    {c : Char}
    (hCode : isCodeChar c = true) :
    isAlignChar c = false ∧ isSignChar c = false ∧
      isGroupingChar c = false ∧ isDecimalDigit c = false ∧
      c ≠ '#' ∧ c ≠ '{' ∧ c ≠ '.' := by
  have hOthers :
      ∀ d ∈ '\u017f' :: "bcdefgnosxBCDEFGNOSX%".toList,
        isAlignChar d = false ∧ isSignChar d = false ∧
          isGroupingChar d = false ∧
          d ≠ '#' ∧ d ≠ '{' ∧ d ≠ '.' := by
    decide
  rw [isCodeChar, Bool.or_eq_true, decide_eq_true_eq,
    beq_iff_eq] at hCode
  have hMem : c ∈ '\u017f' :: "bcdefgnosxBCDEFGNOSX%".toList :=
    List.mem_cons.mpr hCode.symm
  have hDigit :=
    isDecimalDigit_eq_false c
      (List.mem_append_right ['{', '.', ',', '_'] hMem)
  rcases hOthers c hMem with
    ⟨hAlign, hSign, hGrouping, hBehind⟩
  exact ⟨hAlign, hSign, hGrouping, hDigit, hBehind⟩

theorem classes_of_isGroupingChar
    {c : Char}
    (hGrouping : isGroupingChar c = true) :
    isDecimalDigit c = false ∧ c ≠ '{' := by
  have hCases : c = ',' ∨ c = '_' := by
    simpa [isGroupingChar] using hGrouping
  rcases hCases with rfl | rfl
  · exact ⟨isDecimalDigit_eq_false ',' (by decide), by decide⟩
  · exact ⟨isDecimalDigit_eq_false '_' (by decide), by decide⟩

theorem classes_of_isSignChar
    {c : Char}
    (hSign : isSignChar c = true) :
    c ≠ '#' ∧ isInnerChar c = false := by
  have hCases : c = '+' ∨ c = ' ' ∨ c = '-' := by
    simpa [isSignChar] using hSign
  rcases hCases with rfl | rfl | rfl
  all_goals
    simp [isInnerChar, isGroupingChar, isCountChar_eq_false]

namespace Fits

variable {parts : SpecParts}
variable {inClass : Char → Bool}

/- Behind the alignment nothing aligns. -/
theorem isAlignChar_of_mem_fromSign
    (hFits : parts.Fits) :
    ∀ c ∈ parts.fromSign, isAlignChar c = false := by
  intro c hMem
  rw [← Bool.not_eq_true]
  intro hAlign
  have hCode :=
    hFits.toInClasses.mem_code_of_isAlignChar hMem hAlign
  have hClasses := classes_of_isCodeChar (hFits.code c hCode)
  rw [hClasses.1] at hAlign
  cases hAlign

theorem not_startsIn_sign
    (hFits : parts.Fits) :
    ¬ Text.StartsIn isSignChar parts.fromAlternate := by
  rintro ⟨c, hHead, hSign⟩
  rcases classes_of_isSignChar hSign with ⟨hNoFlag, hNotInner⟩
  rcases hFits.toInClasses.mem_fromAlternate
      (List.mem_of_mem_head? hHead) with
    hFlag | hInner | hCode
  · exact hNoFlag hFlag
  · rw [hNotInner] at hInner
    cases hInner
  · have hClasses := classes_of_isCodeChar (hFits.code c hCode)
    rw [hClasses.2.1] at hSign
    cases hSign

theorem not_startsIn_flag
    (hFits : parts.Fits) :
    ¬ Text.StartsIn (· == '#') parts.fromZero := by
  rintro ⟨c, hHead, hFlag⟩
  rw [beq_iff_eq] at hFlag
  subst hFlag
  rcases hFits.toInClasses.mem_fromZero
      (List.mem_of_mem_head? hHead) with hInner | hCode
  · simp [isInnerChar, isGroupingChar, isCountChar_eq_false]
      at hInner
  · have hClasses :=
      classes_of_isCodeChar (hFits.code '#' hCode)
    exact hClasses.2.2.2.2.1 rfl

/- The code can only begin what a code can begin. -/
theorem startsIn_fromCode
    (hFits : parts.Fits)
    (hStarts : Text.StartsIn inClass parts.fromCode) :
    ∃ c, isCodeChar c = true ∧ inClass c = true := by
  rcases hStarts with ⟨c, hHead, hClass⟩
  have hCode : c ∈ parts.code :=
    Option.mem_toList.mp (List.mem_of_mem_head? hHead)
  exact ⟨c, hFits.code c hCode, hClass⟩

theorem startsIn_fromPrecision
    (hFits : parts.Fits)
    (hStarts : Text.StartsIn inClass parts.fromPrecision) :
    inClass '.' = true ∨
      ∃ c, isCodeChar c = true ∧ inClass c = true := by
  unfold fromPrecision at hStarts
  cases hPrecision : parts.precision with
  | none =>
      rw [hPrecision] at hStarts
      exact Or.inr (hFits.startsIn_fromCode hStarts)
  | some count =>
      rw [hPrecision] at hStarts
      exact Or.inl (Text.startsIn_cons.mp hStarts)

theorem startsIn_fromGrouping
    (hFits : parts.Fits)
    (hStarts : Text.StartsIn inClass parts.fromGrouping) :
    (∃ c, isGroupingChar c = true ∧ inClass c = true) ∨
      inClass '.' = true ∨
      ∃ c, isCodeChar c = true ∧ inClass c = true := by
  unfold fromGrouping at hStarts
  cases hGrouping : parts.grouping with
  | none =>
      rw [hGrouping] at hStarts
      exact Or.inr (hFits.startsIn_fromPrecision hStarts)
  | some c =>
      rw [hGrouping] at hStarts
      exact
        Or.inl
          ⟨c, hFits.grouping c hGrouping,
            Text.startsIn_cons.mp hStarts⟩

/- Where a count ends, none begins. -/
theorem not_startsIn_count
    (hFits : parts.Fits) :
    ¬ Text.StartsIn (fun c => isDecimalDigit c || c == '{')
        parts.fromGrouping := by
  intro hStarts
  rcases hFits.startsIn_fromGrouping hStarts with
    ⟨c, hGrouping, hCount⟩ | hCount | ⟨c, hCode, hCount⟩
  · have hClasses := classes_of_isGroupingChar hGrouping
    simp [hClasses] at hCount
  · have hDigit := isDecimalDigit_eq_false '.' (by decide)
    simp [hDigit] at hCount
  · have hClasses := classes_of_isCodeChar hCode
    simp [hClasses] at hCount

theorem not_startsIn_grouping
    (hFits : parts.Fits) :
    ¬ Text.StartsIn isGroupingChar parts.fromPrecision := by
  intro hStarts
  rcases hFits.startsIn_fromPrecision hStarts with
    hGrouping | ⟨c, hCode, hGrouping⟩
  · exact absurd hGrouping (by decide)
  · have hClasses := classes_of_isCodeChar hCode
    simp [hClasses] at hGrouping

theorem not_startsIn_digit_or_point
    (hFits : parts.Fits) :
    ¬ Text.StartsIn (fun c => isDecimalDigit c || c == '.')
        parts.fromCode := by
  intro hStarts
  rcases hFits.startsIn_fromCode hStarts with
    ⟨c, hCode, hCount⟩
  have hClasses := classes_of_isCodeChar hCode
  simp [hClasses] at hCount

end Fits

end SpecParts

end LogLine

------------------------------------------------------------
-- Splitting a Match
------------------------------------------------------------

namespace LogLine

namespace SpecParts

theorem splitAlign_append
    {part rest : Text}
    (hPart : AlignFits part)
    (hRest : ∀ c ∈ rest, isAlignChar c = false) :
    splitAlign (part ++ rest) = (part, rest) := by
  cases hPart with
  | filled hFill hAlign => simp [splitAlign, hFill, hAlign]
  | unfilled hAlign =>
      cases rest with
      | nil => simp [splitAlign, hAlign]
      | cons d behind =>
          have hNext := hRest d (by simp)
          simp [splitAlign, hAlign, hNext]
  | absent =>
      match rest with
      | [] => rfl
      | [c] =>
          have hFirst := hRest c (by simp)
          simp [splitAlign, hFirst]
      | c :: d :: behind =>
          have hFirst := hRest c (by simp)
          have hSecond := hRest d (by simp)
          simp [splitAlign, hFirst, hSecond]

theorem fits_of_splitAlign
    (text : Text) :
    AlignFits (splitAlign text).1 ∧
      (splitAlign text).1 ++ (splitAlign text).2 = text := by
  unfold splitAlign
  split
  case h_1 c d rest =>
      split
      case isTrue hBoth =>
          rw [Bool.and_eq_true, bne_iff_ne] at hBoth
          exact ⟨.filled hBoth.2 hBoth.1, rfl⟩
      case isFalse =>
          split
          case isTrue hFirst => exact ⟨.unfilled hFirst, rfl⟩
          case isFalse => exact ⟨.absent, rfl⟩
  case h_2 c =>
      split
      case isTrue hFirst => exact ⟨.unfilled hFirst, rfl⟩
      case isFalse => exact ⟨.absent, rfl⟩
  case h_3 => exact ⟨.absent, rfl⟩

/- A closing brace is in no word. -/
theorem not_startsIn_closing
    (rest : Text) :
    ¬ Text.StartsIn isWordChar ('}' :: rest) := by
  rw [Text.startsIn_cons]
  decide +kernel

theorem fits_of_splitCount
    {text rest : Text}
    {count : Count}
    (hSplit : splitCount text = some (count, rest)) :
    count.Fits ∧ count.text ++ rest = text := by
  unfold splitCount at hSplit
  split at hSplit
  case h_1 behind =>
      simp only at hSplit
      split at hSplit
      case h_2 => cases hSplit
      case h_1 left hLeft =>
          split at hSplit
          case isTrue => cases hSplit
          case isFalse hSome =>
              cases hSplit
              refine ⟨⟨?_, ?_⟩, ?_⟩
              · simpa using hSome
              · exact
                  List.all_eq_true.mp
                    (List.all_takeWhile (p := isWordChar))
              · have hWhole :=
                  List.takeWhile_append_dropWhile
                    (p := isWordChar) (l := behind)
                rw [hLeft] at hWhole
                simpa [Count.text] using hWhole
  case h_2 =>
      simp only at hSplit
      split at hSplit
      case isTrue => cases hSplit
      case isFalse hSome =>
          cases hSplit
          refine
            ⟨⟨?_, ?_⟩, List.takeWhile_append_dropWhile⟩
          · simpa using hSome
          · exact
              List.all_eq_true.mp
                (List.all_takeWhile (p := isDecimalDigit))

/- A count ends where no digit follows. -/
theorem splitCount_append
    {count : Count}
    {rest : Text}
    (hFits : count.Fits)
    (hNext : ¬ Text.StartsIn isDecimalDigit rest) :
    splitCount (count.text ++ rest) = some (count, rest) := by
  cases count with
  | digits run =>
      have hRun :=
        Text.takeWhile_append_of_not_startsIn hFits.2 hNext
      simp only [Count.text]
      unfold splitCount
      split
      case h_1 behind hOpen =>
          rcases List.exists_cons_of_ne_nil hFits.1 with
            ⟨d, run, rfl⟩
          rw [List.cons_append, List.cons.injEq] at hOpen
          have hDigit := hFits.2 d List.mem_cons_self
          rw [hOpen.1, isDecimalDigit_eq_false '{' (by decide)]
            at hDigit
          cases hDigit
      case h_2 => simp [hRun.1, hRun.2, hFits.1]
  | nested word =>
      have hWord :=
        Text.takeWhile_append_of_not_startsIn hFits.2
          (not_startsIn_closing rest)
      simp [Count.text, splitCount, hWord.1, hWord.2, hFits.1]

/- Where no count begins there is none to split off. -/
theorem splitCount_eq_none
    {text : Text}
    (hNext :
      ¬ Text.StartsIn (fun c => isDecimalDigit c || c == '{')
          text) :
    splitCount text = none := by
  cases text with
  | nil => rfl
  | cons c rest =>
      rw [Text.startsIn_cons, Bool.or_eq_true, beq_iff_eq,
        not_or] at hNext
      unfold splitCount
      split
      case h_1 hOpen =>
          cases hOpen
          exact absurd rfl hNext.2
      case h_2 => simp [hNext.1]

theorem fits_of_splitWidth
    (text : Text) :
    (∀ count ∈ (splitWidth text).1, count.Fits) ∧
      countText (splitWidth text).1 ++ (splitWidth text).2 =
        text := by
  unfold splitWidth
  cases hSplit : splitCount text with
  | none => exact ⟨by simp, rfl⟩
  | some found =>
      rcases fits_of_splitCount hSplit with ⟨hFits, hText⟩
      exact ⟨by simpa using hFits, hText⟩

theorem splitWidth_append
    {count : Option Count}
    {rest : Text}
    (hCount : ∀ found ∈ count, found.Fits)
    (hNext :
      ¬ Text.StartsIn (fun c => isDecimalDigit c || c == '{')
          rest) :
    splitWidth (countText count ++ rest) = (count, rest) := by
  cases count with
  | none =>
      have hNone := splitCount_eq_none hNext
      simp [splitWidth, countText, hNone]
  | some found =>
      have hSplit :=
        splitCount_append (hCount found rfl)
          (mt (Text.StartsIn.mono · (by simp +contextual)) hNext)
      simp [splitWidth, countText, hSplit]

theorem fits_of_splitPrecision
    (text : Text) :
    (∀ count ∈ (splitPrecision text).1, count.Fits) ∧
      precisionText (splitPrecision text).1 ++
          (splitPrecision text).2 =
        text := by
  unfold splitPrecision
  split
  case h_2 => exact ⟨by simp, rfl⟩
  case h_1 rest =>
      cases hSplit : splitCount rest with
      | none => exact ⟨by simp, rfl⟩
      | some found =>
          rcases fits_of_splitCount hSplit with
            ⟨hFits, hText⟩
          exact
            ⟨by simpa using hFits,
              congrArg ('.' :: ·) hText⟩

theorem splitPrecision_append
    {count : Option Count}
    {rest : Text}
    (hCount : ∀ found ∈ count, found.Fits)
    (hNext :
      ¬ Text.StartsIn (fun c => isDecimalDigit c || c == '.')
          rest) :
    splitPrecision (precisionText count ++ rest) =
      (count, rest) := by
  cases count with
  | none =>
      cases rest with
      | nil => rfl
      | cons c behind =>
          rw [Text.startsIn_cons, Bool.or_eq_true, beq_iff_eq,
            not_or] at hNext
          simp only [precisionText, Option.map_none,
            Option.getD_none, List.nil_append]
          unfold splitPrecision
          split
          case h_1 hPoint =>
              cases hPoint
              exact absurd rfl hNext.2
          case h_2 => rfl
  | some found =>
      have hSplit :=
        splitCount_append (hCount found rfl)
          (mt (Text.StartsIn.mono · (by simp +contextual)) hNext)
      simp [splitPrecision, precisionText, hSplit]

theorem charTaken_of_not_startsIn
    {inClass : Char → Bool}
    {part : Option Char}
    {rest : Text}
    (hPart : ∀ c ∈ part, inClass c = true)
    (hNext : ¬ Text.StartsIn inClass rest) :
    CharTaken inClass part rest := by
  cases part with
  | none => exact hNext
  | some c => exact hPart c rfl

/- A flag is a character of a class of one. -/
theorem flagTaken_of_splitChar
    {flag : Char}
    {text rest : Text}
    {part : Option Char}
    (hSplit : splitChar (· == flag) text = (part, rest)) :
    FlagTaken flag part.isSome rest ∧
      flagText flag part.isSome ++ rest = text := by
  rcases splitChar_eq_iff.mp hSplit with ⟨hTaken, rfl⟩
  cases part with
  | none => exact ⟨fun _ => hTaken, rfl⟩
  | some c =>
      rw [CharTaken, beq_iff_eq] at hTaken
      subst hTaken
      refine ⟨?_, rfl⟩
      intro hOff
      cases hOff

theorem splitChar_flag_append
    {flag : Char}
    {on : Bool}
    {rest : Text}
    (hTaken : FlagTaken flag on rest) :
    splitChar (· == flag) (flagText flag on ++ rest) =
      (if on then some flag else none, rest) := by
  rw [splitChar_eq_iff]
  cases on with
  | true => exact ⟨beq_self_eq_true flag, rfl⟩
  | false => exact ⟨hTaken rfl, rfl⟩

end SpecParts

end LogLine

------------------------------------------------------------
-- Matches of Whole Texts
------------------------------------------------------------

namespace LogLine

namespace SpecParts

/- What a text is split into fits, and no zero is left over. -/
theorem fits_of_ofText?
    {text : Text}
    {parts : SpecParts}
    (hParts : ofText? text = some parts) :
    parts.text = text ∧ parts.Fits ∧ parts.ZeroIsFlag := by
  rcases hAlign : splitAlign text with ⟨align, text₁⟩
  rcases hSign : splitChar isSignChar text₁ with
    ⟨sign, text₂⟩
  rcases hAlternate : splitChar (· == '#') text₂ with
    ⟨alternate, text₃⟩
  rcases hZero : splitChar (· == '0') text₃ with
    ⟨zero, text₄⟩
  rcases hWidth : splitWidth text₄ with ⟨width, text₅⟩
  rcases hGrouping : splitChar isGroupingChar text₅ with
    ⟨grouping, text₆⟩
  rcases hPrecision : splitPrecision text₆ with
    ⟨precision, text₇⟩
  rcases hCode : splitChar isCodeChar text₇ with
    ⟨code, text₈⟩
  simp only [ofText?, hAlign, hSign, hAlternate, hZero,
    hWidth, hGrouping, hPrecision, hCode] at hParts
  split at hParts
  case isFalse => cases hParts
  case isTrue hEnd =>
      cases hParts
      rw [List.isEmpty_iff] at hEnd
      subst hEnd
      have hAlignFits := fits_of_splitAlign text
      have hWidthFits := fits_of_splitWidth text₄
      have hPrecisionFits := fits_of_splitPrecision text₆
      rw [hAlign] at hAlignFits
      rw [hWidth] at hWidthFits
      rw [hPrecision] at hPrecisionFits
      rcases hAlignFits with ⟨hAlignFits, rfl⟩
      rcases splitChar_eq_iff.mp hSign with ⟨hSignTaken, rfl⟩
      rcases flagTaken_of_splitChar hAlternate with ⟨-, rfl⟩
      rcases flagTaken_of_splitChar hZero with
        ⟨hZeroTaken, rfl⟩
      rcases hWidthFits with ⟨hWidthFits, rfl⟩
      rcases splitChar_eq_iff.mp hGrouping with
        ⟨hGroupingTaken, rfl⟩
      rcases hPrecisionFits with ⟨hPrecisionFits, rfl⟩
      rcases splitChar_eq_iff.mp hCode with ⟨hCodeTaken, rfl⟩
      refine ⟨?_, ?_, ?_⟩
      · simp only [SpecParts.text, fromSign, fromAlternate,
          fromZero, fromWidth, fromGrouping, fromPrecision,
          fromCode, List.append_nil]
      · exact
          ⟨⟨hSignTaken.mem_class, hWidthFits,
              hGroupingTaken.mem_class, hPrecisionFits⟩,
            hAlignFits, hCodeTaken.mem_class⟩
      · simpa only [ZeroIsFlag, fromWidth, fromGrouping,
          fromPrecision, fromCode, List.append_nil]
          using hZeroTaken

/- A match is split off part by part: no part goes on too far. -/
theorem Fits.ofText?_text
    {parts : SpecParts}
    (hFits : parts.Fits)
    (hFlag : parts.ZeroIsFlag) :
    ofText? parts.text = some parts := by
  have hAlign :
      splitAlign parts.text = (parts.align, parts.fromSign) :=
    splitAlign_append hFits.align
      hFits.isAlignChar_of_mem_fromSign
  have hSign :
      splitChar isSignChar parts.fromSign =
        (parts.sign, parts.fromAlternate) :=
    splitChar_eq_iff.mpr
      ⟨charTaken_of_not_startsIn hFits.sign
        hFits.not_startsIn_sign, rfl⟩
  have hGrouping :
      splitChar isGroupingChar parts.fromGrouping =
        (parts.grouping, parts.fromPrecision) :=
    splitChar_eq_iff.mpr
      ⟨charTaken_of_not_startsIn hFits.grouping
        hFits.not_startsIn_grouping, rfl⟩
  have hWidth :
      splitWidth parts.fromWidth =
        (parts.width, parts.fromGrouping) :=
    splitWidth_append hFits.width hFits.not_startsIn_count
  have hPrecision :
      splitPrecision parts.fromPrecision =
        (parts.precision, parts.fromCode) :=
    splitPrecision_append hFits.precision
      hFits.not_startsIn_digit_or_point
  have hCode :
      splitChar isCodeChar parts.fromCode =
        (parts.code, []) :=
    splitChar_eq_iff.mpr
      ⟨charTaken_of_not_startsIn hFits.code
        Text.not_startsIn_nil, List.append_nil _⟩
  have hAlternate :
      splitChar (· == '#') parts.fromAlternate =
        (if parts.alternate then some '#' else none,
          parts.fromZero) :=
    splitChar_flag_append fun _ => hFits.not_startsIn_flag
  have hZero :
      splitChar (· == '0') parts.fromZero =
        (if parts.zero then some '0' else none,
          parts.fromWidth) :=
    splitChar_flag_append hFlag
  have hOn (flag : Char) (on : Bool) :
      (if on then some flag else none).isSome = on := by
    cases on with
    | true => rfl
    | false => rfl
  simp only [ofText?, hAlign, hSign, hAlternate, hZero,
    hWidth, hGrouping, hPrecision, hCode, hOn,
    List.isEmpty_nil, if_true]

/- The parts of a text are its match that takes a zero as flag. -/
theorem ofText?_eq_some_iff
    {text : Text}
    {parts : SpecParts} :
    ofText? text = some parts ↔
      parts.text = text ∧ parts.Fits ∧ parts.ZeroIsFlag := by
  constructor
  · exact fits_of_ofText?
  · rintro ⟨rfl, hFits, hFlag⟩
    exact hFits.ofText?_text hFlag

/- The digits of a count without the first one. -/
def countOf
    (run : Text) :
    Option Count :=
  if run = [] then none else some (.digits run)

theorem mem_countOf_iff
    {run : Text}
    {count : Count} :
    count ∈ countOf run ↔ run ≠ [] ∧ .digits run = count := by
  unfold countOf
  split
  case isTrue hEmpty => simp [hEmpty]
  case isFalse hSome => simp [hSome]

theorem countText_countOf
    (run : Text) :
    countText (countOf run) = run := by
  unfold countOf
  split
  case isTrue hEmpty => exact hEmpty.symm
  case isFalse => rfl

/- A width is all that can begin with a zero of its own. -/
theorem Fits.exists_width_of_not_zeroIsFlag
    {parts : SpecParts}
    (hFits : parts.Fits)
    (hFlag : ¬ parts.ZeroIsFlag) :
    parts.zero = false ∧
      ∃ tail, parts.width = some (.digits ('0' :: tail)) := by
  simp only [ZeroIsFlag, FlagTaken, Classical.not_imp,
    not_not] at hFlag
  rcases hFlag with ⟨hOff, hStarts⟩
  refine ⟨hOff, ?_⟩
  unfold fromWidth at hStarts
  cases hWidth : parts.width with
  | none =>
      rw [hWidth] at hStarts
      refine absurd (hStarts.mono ?_) hFits.not_startsIn_count
      intro c hZero
      rw [beq_iff_eq] at hZero
      subst hZero
      simp [isDecimalDigit_of_isDigit]
  | some count =>
      have hCount := hFits.width count hWidth
      rw [hWidth] at hStarts
      cases count with
      | nested word =>
          exact
            absurd (Text.startsIn_cons.mp hStarts) (by decide)
      | digits run =>
          rcases List.exists_cons_of_ne_nil hCount.1 with
            ⟨d, tail, rfl⟩
          have hZero : d = '0' := by
            simpa [countText, Count.text] using hStarts
          exact ⟨tail, by rw [hZero]⟩

/- Of two matches of a text one takes a leading zero as flag. -/
theorem Fits.exists_zeroIsFlag
    {parts : SpecParts}
    (hFits : parts.Fits) :
    ∃ other : SpecParts,
      other.text = parts.text ∧
      other.Fits ∧
      other.ZeroIsFlag := by
  by_cases hFlag : parts.ZeroIsFlag
  · exact ⟨parts, rfl, hFits, hFlag⟩
  · rcases hFits.exists_width_of_not_zeroIsFlag hFlag with
      ⟨hOff, tail, hWidth⟩
    refine
      ⟨{ parts with zero := true, width := countOf tail },
        ?_, ?_, ?_⟩
    · simp only [SpecParts.text, fromSign, fromAlternate,
        fromZero, fromWidth, hOff, hWidth, countText_countOf]
      rfl
    · refine
        ⟨⟨hFits.sign, ?_, hFits.grouping, hFits.precision⟩,
          hFits.align, hFits.code⟩
      intro found hFound
      rcases mem_countOf_iff.mp hFound with ⟨hSome, rfl⟩
      have hDigits := (hFits.width _ hWidth).2
      exact ⟨hSome, (List.forall_mem_cons.mp hDigits).2⟩
    · intro hNever
      cases hNever

end SpecParts

/- The shape of spec texts is the pattern. -/
theorem isSpecText_iff
    {text : Text} :
    isSpecText text = true ↔
      ∃ parts : SpecParts, parts.text = text ∧ parts.Fits := by
  rw [isSpecText, Option.isSome_iff_exists]
  constructor
  · rintro ⟨parts, hParts⟩
    rcases SpecParts.ofText?_eq_some_iff.mp hParts with
      ⟨hText, hFits, -⟩
    exact ⟨parts, hText, hFits⟩
  · rintro ⟨parts, rfl, hFits⟩
    rcases hFits.exists_zeroIsFlag with
      ⟨other, hText, hOther, hFlag⟩
    exact
      ⟨other,
        SpecParts.ofText?_eq_some_iff.mpr
          ⟨hText, hOther, hFlag⟩⟩

end LogLine

------------------------------------------------------------
-- What a Spec Text May Hold
------------------------------------------------------------

namespace LogLine

/- The text behind the fill, which an alignment follows. -/
def behindFill : Text → Text
  | c :: d :: rest =>
      if SpecParts.isAlignChar d then
        d :: rest
      else
        c :: d :: rest
  | text => text

/- Behind the fill stands a decimal digit of another script. -/
def ForeignDigit
    (text : Text) : Prop :=
  ∃ c ∈ behindFill text,
    isDecimalDigit c = true ∧ c.isDigit = false

/- The text asks for a width or a precision that is too large. -/
def HugeCount
    (text : Text) : Prop :=
  ∃ parts,
    SpecParts.ofText? text = some parts ∧
      ((∃ width ∈ parts.width, width.IsHuge) ∨
        (∃ precision ∈ parts.precision, precision.IsHuge))

/- Whether a character may stand behind the fill of a spec. -/
def isSpecChar
    (c : Char) :
    Bool :=
  SpecParts.isAlignChar c || SpecParts.isSignChar c ||
    SpecParts.isGroupingChar c || SpecParts.isCodeChar c ||
    isCountChar c || c == '#' || c == '.'

/- Behind its fill a match holds its alignment and what follows. -/
theorem SpecParts.Fits.behindFill_text
    {parts : SpecParts}
    (hFits : parts.Fits) :
    behindFill parts.text =
      parts.align.drop (parts.align.length - 1) ++
        parts.fromSign := by
  have hRest := hFits.isAlignChar_of_mem_fromSign
  have hAlign := hFits.align
  unfold SpecParts.text
  generalize parts.align = align at hAlign ⊢
  cases hAlign with
  | filled hFill hAlign => simp [behindFill, hAlign]
  | unfilled hAlign =>
      cases hText : parts.fromSign with
      | nil => rfl
      | cons c rest =>
          rw [hText] at hRest
          simp [behindFill, hRest c (by simp)]
  | absent =>
      match hText : parts.fromSign with
      | [] => rfl
      | [c] => rfl
      | c :: d :: rest =>
          rw [hText] at hRest
          simp [behindFill, hRest d (by simp)]

/- Behind its fill a spec text holds few characters. -/
theorem isSpecChar_of_isSpecText
    {text : Text}
    (hShape : isSpecText text = true)
    {c : Char}
    (hMem : c ∈ behindFill text) :
    isSpecChar c = true := by
  rcases isSpecText_iff.mp hShape with ⟨parts, rfl, hFits⟩
  rw [hFits.behindFill_text, List.mem_append] at hMem
  rcases hMem with hAlign | hBehind
  · have hLast : SpecParts.isAlignChar c = true := by
      have hFits := hFits.align
      generalize parts.align = align at hAlign hFits
      cases hFits with
      | filled hFill hAligns =>
          rwa [List.mem_singleton.mp hAlign]
      | unfilled hAligns =>
          rwa [List.mem_singleton.mp hAlign]
      | absent => cases hAlign
    simp [isSpecChar, hLast]
  · rcases hFits.toInClasses.mem_fromSign hBehind with
      hSign | hFlag | hInner | hCode
    · simp [isSpecChar, hSign]
    · simp [isSpecChar, hFlag]
    · simp only [SpecParts.isInnerChar, Bool.or_eq_true]
        at hInner
      rcases hInner with (hCount | hGrouping) | hPoint
      · simp [isSpecChar, hCount]
      · simp [isSpecChar, hGrouping]
      · simp [isSpecChar, hPoint]
    · simp [isSpecChar, hFits.code c hCode]

end LogLine

------------------------------------------------------------
-- Matches and Readings
------------------------------------------------------------

namespace LogLine

namespace SpecParts

theorem mem_fromSign_of_mem_width
    {parts : SpecParts}
    {count : Count}
    (hCount : count ∈ parts.width)
    {c : Char}
    (hMem : c ∈ count.text) :
    c ∈ parts.fromSign := by
  have hWidth : c ∈ countText parts.width := by
    rw [hCount]
    exact hMem
  simp [fromSign, fromAlternate, fromZero, fromWidth, hWidth]

theorem mem_fromSign_of_mem_precision
    {parts : SpecParts}
    {count : Count}
    (hCount : count ∈ parts.precision)
    {c : Char}
    (hMem : c ∈ count.text) :
    c ∈ parts.fromSign := by
  have hPrecision : c ∈ precisionText parts.precision := by
    rw [hCount]
    exact List.mem_cons_of_mem '.' hMem
  simp [fromSign, fromAlternate, fromZero, fromWidth,
    fromGrouping, fromPrecision, hPrecision]

/- Neither an open brace nor a digit of another script. -/
def IsPlain
    (c : Char) : Prop :=
  c ≠ '{' ∧ (isDecimalDigit c = true → c.isDigit = true)

/- A plain count is read to its end, if no digit follows. -/
theorem countTaken_of_fits
    {part : Option Count}
    {rest : Text}
    (hFits : ∀ count ∈ part, count.Fits)
    (hPlain : ∀ count ∈ part, ∀ c ∈ count.text, IsPlain c)
    (hNext : ¬ Text.StartsIn Char.isDigit rest) :
    CountTaken part rest := by
  rcases part with _ | ⟨run⟩ | ⟨word⟩
  · exact hNext
  · have hRun := hFits _ rfl
    refine ⟨hRun.1, ?_, hNext⟩
    intro c hMem
    exact (hPlain _ rfl c hMem).2 (hRun.2 c hMem)
  · exact (hPlain _ rfl '{' List.mem_cons_self).1 rfl

theorem precisionTaken_of_fits
    {part : Option Count}
    {rest : Text}
    (hFits : ∀ count ∈ part, count.Fits)
    (hPlain : ∀ count ∈ part, ∀ c ∈ count.text, IsPlain c)
    (hNext :
      ¬ Text.StartsIn (fun c => isDecimalDigit c || c == '.')
          rest) :
    PrecisionTaken part rest := by
  cases part with
  | none =>
      exact mt (Text.StartsIn.mono · (by simp +contextual)) hNext
  | some count =>
      refine countTaken_of_fits hFits hPlain ?_
      exact
        mt (Text.StartsIn.mono ·
          (by simp +contextual [isDecimalDigit_of_isDigit]))
          hNext

theorem AlignFits.taken
    {part rest : Text}
    (hFits : AlignFits part)
    (hRest : ∀ c ∈ rest, isAlignChar c = false) :
    AlignTaken part rest := by
  have hNext (n : Nat) :
      ∀ c ∈ rest.take n, isAlignChar c = false :=
    fun c hMem => hRest c (List.mem_of_mem_take hMem)
  cases hFits with
  | filled hFill hAlign => exact .filled hAlign
  | unfilled hAlign => exact .unfilled hAlign (hNext 1)
  | absent => exact .absent (hNext 2)

theorem Fits.isPlain
    {parts : SpecParts}
    (hFits : parts.Fits)
    (hBrace : '{' ∉ parts.text)
    (hAscii : ¬ ForeignDigit parts.text) :
    ∀ c ∈ parts.fromSign, IsPlain c := by
  intro c hMem
  constructor
  · rintro rfl
    exact hBrace (List.mem_append_right _ hMem)
  · intro hDigit
    by_contra hForeign
    rw [Bool.not_eq_true] at hForeign
    refine hAscii ⟨c, ?_, hDigit, hForeign⟩
    rw [hFits.behindFill_text]
    exact List.mem_append_right _ hMem

/- A match without braces and foreign digits is read greedily. -/
theorem Fits.greedy
    {parts : SpecParts}
    (hFits : parts.Fits)
    (hFlag : parts.ZeroIsFlag)
    (hBrace : '{' ∉ parts.text)
    (hAscii : ¬ ForeignDigit parts.text) :
    parts.Greedy := by
  have hPlain := hFits.isPlain hBrace hAscii
  constructor
  case align =>
      exact
        hFits.align.taken hFits.isAlignChar_of_mem_fromSign
  case sign =>
      exact
        charTaken_of_not_startsIn hFits.sign
          hFits.not_startsIn_sign
  case alternate => exact fun _ => hFits.not_startsIn_flag
  case zero => exact hFlag
  case width =>
      refine countTaken_of_fits hFits.width ?_ ?_
      · intro count hCount c hMem
        exact hPlain c (mem_fromSign_of_mem_width hCount hMem)
      · exact
          mt (Text.StartsIn.mono ·
            (by simp +contextual [isDecimalDigit_of_isDigit]))
            hFits.not_startsIn_count
  case grouping =>
      exact
        charTaken_of_not_startsIn hFits.grouping
          hFits.not_startsIn_grouping
  case precision =>
      refine
        precisionTaken_of_fits hFits.precision ?_
          hFits.not_startsIn_digit_or_point
      intro count hCount c hMem
      exact
        hPlain c (mem_fromSign_of_mem_precision hCount hMem)

/- A greedy reading whose ends the pattern allows is a match. -/
theorem Greedy.fits
    {parts : SpecParts}
    (hGreedy : parts.Greedy)
    (hFill : parts.toSpec.fill ≠ some '\n')
    (hCode : ∀ c ∈ parts.toSpec.code, isCodeChar c = true) :
    parts.Fits where
  toInClasses := hGreedy.inClasses
  align := by
    have hTaken := hGreedy.align
    simp only [toSpec] at hFill
    generalize parts.align = align at hFill hTaken
    cases hTaken with
    | filled hAlign =>
        refine .filled ?_ hAlign
        rintro rfl
        exact hFill rfl
    | unfilled hAlign => exact .unfilled hAlign
    | absent => exact .absent
  code := hCode

end SpecParts

/- Why a text with the shape of a spec can be none. -/
theorem foreignDigit_or_hugeCount
    {text : Text}
    (hShape : isSpecText text = true)
    (hBrace : '{' ∉ text)
    (hNone : Spec.parse? text = none) :
    ForeignDigit text ∨ HugeCount text := by
  rw [or_iff_not_imp_left]
  intro hAscii
  rcases Option.isSome_iff_exists.mp hShape with
    ⟨parts, hParts⟩
  rcases SpecParts.ofText?_eq_some_iff.mp hParts with
    ⟨rfl, hFits, hFlag⟩
  by_contra hSmall
  have hParse : Spec.parse? parts.text = some parts.toSpec := by
    refine
      Spec.parse?_eq_some_iff.mpr
        ⟨parts, rfl, hFits.greedy hFlag hBrace hAscii,
          ⟨?_, ?_⟩, rfl⟩
    · intro count hCount hHuge
      exact
        hSmall ⟨parts, hParts, Or.inl ⟨count, hCount, hHuge⟩⟩
    · intro count hCount hHuge
      exact
        hSmall ⟨parts, hParts, Or.inr ⟨count, hCount, hHuge⟩⟩
  rw [hNone] at hParse
  cases hParse

/-
  A text has the shape of a spec if it is a match of the
  pattern.  If no brace and no foreign digit stands in it,
  the match that takes a zero as flag is what the reader
  finds, and only a number that is too large stops it.  What
  the reader finds has the shape of a spec unless its fill or
  its code is none of the pattern.
-/
theorem pattern_and_reader_agree
    (text : Text) :
    (isSpecText text = true ↔
      ∃ parts : SpecParts,
        parts.text = text ∧ parts.Fits) ∧
    (isSpecText text = true →
      '{' ∉ text →
      ¬ ForeignDigit text →
      ∃ parts : SpecParts,
        (∀ other : SpecParts,
          other.text = text ∧
              other.Fits ∧
              other.ZeroIsFlag ↔
            other = parts) ∧
        (∀ spec,
          Spec.parse text = .ok spec ↔
            parts.Small ∧ spec = parts.toSpec)) ∧
    (∀ spec,
      Spec.parse text = .ok spec →
      spec.fill ≠ some '\n' →
      (∀ c ∈ spec.code, SpecParts.isCodeChar c = true) →
      isSpecText text = true) := by
  refine ⟨isSpecText_iff, ?_, ?_⟩
  · intro hShape hBrace hAscii
    rcases Option.isSome_iff_exists.mp hShape with
      ⟨parts, hParts⟩
    refine ⟨parts, ?_, ?_⟩
    · intro other
      rw [← SpecParts.ofText?_eq_some_iff, hParts,
        Option.some.injEq, eq_comm]
    · intro spec
      rcases SpecParts.ofText?_eq_some_iff.mp hParts with
        ⟨rfl, hFits, hFlag⟩
      have hGreedy := hFits.greedy hFlag hBrace hAscii
      rw [Spec.parse_eq_ok_iff, Spec.parse?_eq_some_iff]
      constructor
      · rintro ⟨found, hText, hFound, hSmall, rfl⟩
        rcases hFound.unique hGreedy hText with rfl
        exact ⟨hSmall, rfl⟩
      · rintro ⟨hSmall, rfl⟩
        exact ⟨parts, rfl, hGreedy, hSmall, rfl⟩
  · intro spec hParse hFill hCode
    rw [Spec.parse_eq_ok_iff, Spec.parse?_eq_some_iff] at hParse
    rcases hParse with ⟨parts, hText, hGreedy, -, rfl⟩
    exact
      isSpecText_iff.mpr ⟨parts, hText, hGreedy.fits hFill hCode⟩

/- A digit of another script may fill; one zero is the flag. -/
theorem pattern_and_reader_agree_of_zeros :
    '{' ∉ "\u0663>+#0007,.3F".toList ∧
      ¬ ForeignDigit "\u0663>+#0007,.3F".toList ∧
      (∃ parts : SpecParts,
        (∀ other : SpecParts,
          other.text = "\u0663>+#0007,.3F".toList ∧
              other.Fits ∧
              other.ZeroIsFlag ↔
            other = parts) ∧
        (∀ spec,
          Spec.parse "\u0663>+#0007,.3F".toList = .ok spec ↔
            parts.Small ∧ spec = parts.toSpec)) ∧
      Spec.parse "\u0663>+#0007,.3F".toList =
        .ok
          ⟨some '\u0663', some .right, some .plus, true, true,
            some 7, some ',', some 3, some 'F'⟩ ∧
      isSpecText "\u0663>+#0007,.3F".toList = true := by
  have hBrace : '{' ∉ "\u0663>+#0007,.3F".toList := by decide
  have hAscii :
      ¬ ForeignDigit "\u0663>+#0007,.3F".toList := by
    have hAll :
        ∀ c ∈ behindFill "\u0663>+#0007,.3F".toList,
          isDecimalDigit c = true → c.isDigit = true := by
      decide
    rintro ⟨c, hMem, hDigit, hForeign⟩
    rw [hAll c hMem hDigit] at hForeign
    cases hForeign
  have hParse :
      Spec.parse "\u0663>+#0007,.3F".toList =
        .ok
          ⟨some '\u0663', some .right, some .plus, true, true,
            some 7, some ',', some 3, some 'F'⟩ := by
    rfl
  have hCode : ∀ c ∈ some 'F', SpecParts.isCodeChar c = true := by
    intro c hMem
    cases hMem
    rfl
  have hAgree :=
    pattern_and_reader_agree "\u0663>+#0007,.3F".toList
  have hShape := hAgree.2.2 _ hParse (by decide) hCode
  exact
    ⟨hBrace, hAscii, hAgree.2.1 hShape hBrace hAscii, hParse,
      hShape⟩

end LogLine
