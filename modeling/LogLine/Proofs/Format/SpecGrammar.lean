import LogLine.Template.NamePattern
import LogLine.Format.Spec
import Mathlib.Data.List.Basic

/-
  The grammar of format specs: what the reader of specs
  accepts, and what it gives for it.

  Key definitions include:
    * `LogLine.SpecParts.text`
    * `LogLine.SpecParts.Greedy`
    * `LogLine.SpecParts.Small`
    * `LogLine.SpecParts.toSpec`

  Key theorems include:
    * `LogLine.Spec.parse?_eq_some_iff`
    * `LogLine.SpecParts.InClasses.mem_fromSign`

  A spec in the order of the grammar is the text of its parts.
  Such a text can have several readings; the one in which each
  part is taken as soon as the next character allows it counts.
-/

------------------------------------------------------------
-- First Characters
------------------------------------------------------------

namespace LogLine

namespace Text

/- The first character of the text is in the class. -/
def StartsIn
    (inClass : Char → Bool)
    (text : Text) : Prop :=
  ∃ c ∈ text.head?, inClass c = true

instance
    (inClass : Char → Bool) :
    DecidablePred (StartsIn inClass)
  | [] => isFalse (by simp [StartsIn])
  | c :: rest =>
      decidable_of_iff (inClass c = true) (by simp [StartsIn])

variable {inClass : Char → Bool}

@[simp]
theorem not_startsIn_nil :
    ¬ StartsIn inClass [] := by
  simp [StartsIn]

@[simp]
theorem startsIn_cons
    {c : Char}
    {rest : Text} :
    StartsIn inClass (c :: rest) ↔ inClass c = true := by
  simp [StartsIn]

theorem StartsIn.mono
    {text : Text}
    {wider : Char → Bool}
    (hStarts : StartsIn inClass text)
    (hWider : ∀ c, inClass c = true → wider c = true) :
    StartsIn wider text := by
  rcases hStarts with ⟨c, hHead, hClass⟩
  exact ⟨c, hHead, hWider c hClass⟩

theorem startsIn_isAlphanum
    {text : Text}
    (hStarts : StartsIn Char.isDigit text) :
    StartsIn Char.isAlphanum text := by
  refine hStarts.mono ?_
  intro c hDigit
  rw [Char.isAlphanum, hDigit, Bool.or_true]

theorem startsIn_congr
    {first second : Text}
    (hHead : first.head? = second.head?) :
    StartsIn inClass first ↔ StartsIn inClass second := by
  rw [StartsIn, StartsIn, hHead]

theorem startsIn_append_of_ne_nil
    {first : Text}
    (hSome : first ≠ [])
    (second : Text) :
    StartsIn inClass (first ++ second) ↔
      StartsIn inClass first :=
  startsIn_congr (List.head?_append_of_ne_nil first hSome)

/- Where a run of the class ends, no more of it follows. -/
theorem takeWhile_append_of_not_startsIn
    {run rest : Text}
    (hRun : ∀ c ∈ run, inClass c = true)
    (hRest : ¬ StartsIn inClass rest) :
    (run ++ rest).takeWhile inClass = run ∧
      (run ++ rest).dropWhile inClass = rest := by
  have hEnd :
      rest.takeWhile inClass = [] ∧
        rest.dropWhile inClass = rest := by
    cases rest with
    | nil => exact ⟨rfl, rfl⟩
    | cons c rest =>
        rw [startsIn_cons] at hRest
        exact
          ⟨List.takeWhile_cons_of_neg hRest,
            List.dropWhile_cons_of_neg hRest⟩
  rw [List.takeWhile_append_of_pos hRun,
    List.dropWhile_append_of_pos hRun, hEnd.1, hEnd.2,
    List.append_nil]
  exact ⟨rfl, rfl⟩

theorem not_startsIn_dropWhile
    (text : Text) :
    ¬ StartsIn inClass (text.dropWhile inClass) := by
  rintro ⟨c, hHead, hClass⟩
  have hNot := List.head?_dropWhile_not inClass text
  simp [Option.mem_def.mp hHead, hClass] at hNot

end Text

end LogLine

------------------------------------------------------------
-- Texts of Parts
------------------------------------------------------------

namespace LogLine

namespace Count

/- A count as it stands in a text. -/
def text : Count → Text
  | digits run => run
  | nested word => '{' :: word ++ ['}']

/- The number that a count is, unless it is a word. -/
def number? : Count → Option Nat
  | digits run => some (Text.digitsValue run)
  | nested _ => none

/- Whether a count is a number beyond the largest one. -/
def IsHuge : Count → Prop
  | digits text => Spec.maxCount < Text.digitsValue text
  | nested _ => False

end Count

namespace SpecParts

/- A flag as it stands in a text. -/
def flagText
    (flag : Char)
    (on : Bool) :
    Text :=
  if on then [flag] else []

/- A count, if there is one, as it stands in a text. -/
def countText
    (count : Option Count) :
    Text :=
  (count.map Count.text).getD []

/- A precision, if there is one, behind its point. -/
def precisionText
    (precision : Option Count) :
    Text :=
  ((precision.map Count.text).map ('.' :: ·)).getD []

/- The text of the parts from the code on. -/
def fromCode
    (parts : SpecParts) :
    Text :=
  parts.code.toList

def fromPrecision
    (parts : SpecParts) :
    Text :=
  precisionText parts.precision ++ parts.fromCode

def fromGrouping
    (parts : SpecParts) :
    Text :=
  parts.grouping.toList ++ parts.fromPrecision

def fromWidth
    (parts : SpecParts) :
    Text :=
  countText parts.width ++ parts.fromGrouping

def fromZero
    (parts : SpecParts) :
    Text :=
  flagText '0' parts.zero ++ parts.fromWidth

def fromAlternate
    (parts : SpecParts) :
    Text :=
  flagText '#' parts.alternate ++ parts.fromZero

def fromSign
    (parts : SpecParts) :
    Text :=
  parts.sign.toList ++ parts.fromAlternate

/- All parts in the order of the grammar. -/
def text
    (parts : SpecParts) :
    Text :=
  parts.align ++ parts.fromSign

/- The fill and the alignment that a text asks for. -/
def alignOf : Text → Option Char × Option Align
  | [d] => (none, Align.ofChar? d)
  | [c, d] => (some c, Align.ofChar? d)
  | _ => (none, none)

/- What the parts ask for. -/
def toSpec
    (parts : SpecParts) :
    Spec where
  fill := (alignOf parts.align).1
  align := (alignOf parts.align).2
  sign := parts.sign.bind Sign.ofChar?
  alternate := parts.alternate
  zero := parts.zero
  width := parts.width.bind Count.number?
  grouping := parts.grouping
  precision := parts.precision.bind Count.number?
  code := parts.code

end SpecParts

end LogLine

------------------------------------------------------------
-- Greedy Readings
------------------------------------------------------------

namespace LogLine

namespace SpecParts

/-
  How the front of a text is read with `rest` behind it: a
  second character that aligns makes the first one a fill, and
  only then does the first one count.
-/
inductive AlignTaken : Text → Text → Prop where
  | filled
      {fill align : Char}
      {rest : Text}
      (hAlign : isAlignChar align = true) :
      AlignTaken [fill, align] rest
  | unfilled
      {align : Char}
      {rest : Text}
      (hAlign : isAlignChar align = true)
      (hNext : ∀ c ∈ rest.take 1, isAlignChar c = false) :
      AlignTaken [align] rest
  | absent
      {rest : Text}
      (hNext : ∀ c ∈ rest.take 2, isAlignChar c = false) :
      AlignTaken [] rest

instance decidableAlignTaken :
    ∀ part rest, Decidable (AlignTaken part rest)
  | [], rest =>
      decidable_of_iff
        (∀ c ∈ rest.take 2, isAlignChar c = false)
        ⟨.absent, fun | .absent hNext => hNext⟩
  | [align], rest =>
      decidable_of_iff
        (isAlignChar align = true ∧
          ∀ c ∈ rest.take 1, isAlignChar c = false)
        ⟨fun ⟨hAlign, hNext⟩ => .unfilled hAlign hNext,
          fun | .unfilled hAlign hNext => ⟨hAlign, hNext⟩⟩
  | [_, align], _ =>
      decidable_of_iff (isAlignChar align = true)
        ⟨.filled, fun | .filled hAlign => hAlign⟩
  | _ :: _ :: _ :: _, _ => isFalse nofun

/- A character of the class is taken if one stands next. -/
def CharTaken
    (inClass : Char → Bool)
    (part : Option Char)
    (rest : Text) : Prop :=
  match part with
  | some c => inClass c = true
  | none => ¬ Text.StartsIn inClass rest

instance
    (inClass : Char → Bool)
    (part : Option Char)
    (rest : Text) :
    Decidable (CharTaken inClass part rest) := by
  unfold CharTaken
  split
  all_goals infer_instance

/- A flag is taken if it stands next. -/
def FlagTaken
    (flag : Char)
    (on : Bool)
    (rest : Text) : Prop :=
  on = false → ¬ Text.StartsIn (· == flag) rest

instance
    (flag : Char)
    (on : Bool)
    (rest : Text) :
    Decidable (FlagTaken flag on rest) := by
  unfold FlagTaken
  infer_instance

/- All digits that stand next are taken. -/
def CountTaken
    (part : Option Count)
    (rest : Text) : Prop :=
  match part with
  | some (.digits digits) =>
      digits ≠ [] ∧
      (∀ c ∈ digits, c.isDigit = true) ∧
      ¬ Text.StartsIn Char.isDigit rest
  | some (.nested _) => False
  | none => ¬ Text.StartsIn Char.isDigit rest

instance
    (part : Option Count)
    (rest : Text) :
    Decidable (CountTaken part rest) := by
  unfold CountTaken
  split
  all_goals infer_instance

/- A point is taken, and then a digit has to stand next. -/
def PrecisionTaken
    (part : Option Count)
    (rest : Text) : Prop :=
  match part with
  | some count => CountTaken (some count) rest
  | none => ¬ Text.StartsIn (· == '.') rest

instance
    (part : Option Count)
    (rest : Text) :
    Decidable (PrecisionTaken part rest) := by
  unfold PrecisionTaken
  split
  all_goals infer_instance

/- Digits that are taken are the run in front of what is left. -/
theorem CountTaken.run
    {part : Option Count}
    {rest : Text}
    (hTaken : CountTaken part rest) :
    (countText part ++ rest).takeWhile Char.isDigit =
        countText part ∧
      (countText part ++ rest).dropWhile Char.isDigit =
        rest := by
  rcases part with _ | ⟨run⟩ | ⟨word⟩
  · exact
      Text.takeWhile_append_of_not_startsIn
        (by simp [countText]) hTaken
  · exact
      Text.takeWhile_append_of_not_startsIn hTaken.2.1
        hTaken.2.2
  · exact hTaken.elim

theorem CountTaken.countTaken
    {part : Option Count}
    {rest : Text}
    (hTaken : CountTaken part rest) :
    ∀ count ∈ part, CountTaken (some count) rest := by
  intro count hCount
  cases hCount
  exact hTaken

theorem PrecisionTaken.countTaken
    {part : Option Count}
    {rest : Text}
    (hTaken : PrecisionTaken part rest) :
    ∀ count ∈ part, CountTaken (some count) rest := by
  intro count hCount
  cases hCount
  exact hTaken

/- Every part is taken as soon as the next character allows it. -/
structure Greedy
    (parts : SpecParts) : Prop where
  align : AlignTaken parts.align parts.fromSign
  sign : CharTaken isSignChar parts.sign parts.fromAlternate
  alternate : FlagTaken '#' parts.alternate parts.fromZero
  zero : FlagTaken '0' parts.zero parts.fromWidth
  width : CountTaken parts.width parts.fromGrouping
  grouping :
    CharTaken isGroupingChar parts.grouping parts.fromPrecision
  precision : PrecisionTaken parts.precision parts.fromCode

instance :
    DecidablePred Greedy :=
  fun parts =>
    decidable_of_iff
      (AlignTaken parts.align parts.fromSign ∧
        CharTaken isSignChar parts.sign parts.fromAlternate ∧
        FlagTaken '#' parts.alternate parts.fromZero ∧
        FlagTaken '0' parts.zero parts.fromWidth ∧
        CountTaken parts.width parts.fromGrouping ∧
        CharTaken isGroupingChar parts.grouping
          parts.fromPrecision ∧
        PrecisionTaken parts.precision parts.fromCode)
      ⟨fun ⟨hAlign, hSign, hAlternate, hZero, hWidth,
          hGrouping, hPrecision⟩ =>
        ⟨hAlign, hSign, hAlternate, hZero, hWidth, hGrouping,
          hPrecision⟩,
        fun hGreedy =>
          ⟨hGreedy.align, hGreedy.sign, hGreedy.alternate,
            hGreedy.zero, hGreedy.width, hGreedy.grouping,
            hGreedy.precision⟩⟩

/- Both counts are numbers that are not too large. -/
structure Small
    (parts : SpecParts) : Prop where
  width : ∀ count ∈ parts.width, ¬ count.IsHuge
  precision : ∀ count ∈ parts.precision, ¬ count.IsHuge

end SpecParts

end LogLine

------------------------------------------------------------
-- Reading Part by Part
------------------------------------------------------------

namespace LogLine

namespace SpecParts

theorem isAlignChar_eq_isSome
    (c : Char) :
    isAlignChar c = (Align.ofChar? c).isSome := by
  unfold isAlignChar Align.ofChar?
  split
  case h_5 hLeft hRight hCenter hAfter =>
      simpa using ⟨hLeft, hRight, hAfter, hCenter⟩
  all_goals rfl

theorem exists_align_of_isAlignChar
    {c : Char}
    (hAlign : isAlignChar c = true) :
    ∃ align, Align.ofChar? c = some align := by
  rw [isAlignChar_eq_isSome] at hAlign
  exact Option.isSome_iff_exists.mp hAlign

theorem ofChar?_of_not_isAlignChar
    {c : Char}
    (hOther : isAlignChar c = false) :
    Align.ofChar? c = none := by
  rwa [isAlignChar_eq_isSome, Option.isSome_eq_false_iff,
    Option.isNone_iff_eq_none] at hOther

theorem isSignChar_eq_isSome
    (c : Char) :
    isSignChar c = (Sign.ofChar? c).isSome := by
  unfold isSignChar Sign.ofChar?
  split
  case h_4 hMinus hPlus hSpace =>
      simpa using ⟨hPlus, hSpace, hMinus⟩
  all_goals rfl

/- Digits and letters are no signs. -/
theorem ofChar?_of_isAlphanum
    {c : Char}
    (hClass : c.isAlphanum = true) :
    Sign.ofChar? c = none := by
  unfold Sign.ofChar?
  split
  case h_4 => rfl
  all_goals exact absurd hClass (by decide)

theorem CharTaken.mem_class
    {inClass : Char → Bool}
    {part : Option Char}
    {rest : Text}
    (hTaken : CharTaken inClass part rest) :
    ∀ c ∈ part, inClass c = true := by
  intro c hMem
  cases hMem
  exact hTaken

theorem splitChar_eq_iff
    {inClass : Char → Bool}
    {text rest : Text}
    {part : Option Char} :
    splitChar inClass text = (part, rest) ↔
      CharTaken inClass part rest ∧
      part.toList ++ rest = text := by
  constructor
  · intro hSplit
    cases text with
    | nil =>
        cases hSplit
        exact ⟨Text.not_startsIn_nil, rfl⟩
    | cons c behind =>
        rw [splitChar] at hSplit
        split at hSplit
        case isTrue hClass =>
            cases hSplit
            exact ⟨hClass, rfl⟩
        case isFalse hClass =>
            cases hSplit
            exact ⟨mt Text.startsIn_cons.mp hClass, rfl⟩
  · rintro ⟨hTaken, rfl⟩
    cases part with
    | some c => exact if_pos hTaken
    | none =>
        cases rest with
        | nil => rfl
        | cons c behind =>
            exact if_neg (mt Text.startsIn_cons.mpr hTaken)

end SpecParts

namespace Spec

open SpecParts

theorem takeAlign_append
    {part rest : Text}
    (hTaken : AlignTaken part rest) :
    takeAlign (part ++ rest) = (alignOf part, rest) := by
  cases hTaken with
  | filled hAlign =>
      rcases exists_align_of_isAlignChar hAlign with
        ⟨align, hFound⟩
      simp [takeAlign, alignOf, hFound]
  | unfilled hAlign hNext =>
      rcases exists_align_of_isAlignChar hAlign with
        ⟨align, hFound⟩
      cases rest with
      | nil => simp [takeAlign, alignOf, hFound]
      | cons d behind =>
          have hOther :=
            ofChar?_of_not_isAlignChar (hNext d (by simp))
          simp [takeAlign, alignOf, hFound, hOther]
  | absent hNext =>
      match rest with
      | [] => rfl
      | [c] =>
          have hFirst :=
            ofChar?_of_not_isAlignChar (hNext c (by simp))
          simp [takeAlign, alignOf, hFirst]
      | c :: d :: behind =>
          have hFirst :=
            ofChar?_of_not_isAlignChar (hNext c (by simp))
          have hSecond :=
            ofChar?_of_not_isAlignChar (hNext d (by simp))
          simp [takeAlign, alignOf, hFirst, hSecond]

/- Every text is read in one of the three ways. -/
theorem exists_alignTaken
    (text : Text) :
    ∃ part rest,
      part ++ rest = text ∧ AlignTaken part rest := by
  match text with
  | [] => exact ⟨[], [], rfl, .absent (by simp)⟩
  | [c] =>
      by_cases hFirst : isAlignChar c = true
      · exact ⟨[c], [], rfl, .unfilled hFirst (by simp)⟩
      · exact ⟨[], [c], rfl, .absent (by simpa using hFirst)⟩
  | c :: d :: rest =>
      by_cases hSecond : isAlignChar d = true
      · exact ⟨[c, d], rest, rfl, .filled hSecond⟩
      · rw [Bool.not_eq_true] at hSecond
        by_cases hFirst : isAlignChar c = true
        · exact
            ⟨[c], d :: rest, rfl,
              .unfilled hFirst (by simp [hSecond])⟩
        · rw [Bool.not_eq_true] at hFirst
          exact
            ⟨[], c :: d :: rest, rfl,
              .absent (by simp [hFirst, hSecond])⟩

theorem takeAlign_eq_iff
    {text rest : Text}
    {found : Option Char × Option Align} :
    takeAlign text = (found, rest) ↔
      ∃ part,
        AlignTaken part rest ∧
        part ++ rest = text ∧
        alignOf part = found := by
  constructor
  · intro hTake
    rcases exists_alignTaken text with
      ⟨part, behind, hText, hTaken⟩
    rw [← hText, takeAlign_append hTaken] at hTake
    cases hTake
    exact ⟨part, hTaken, hText, rfl⟩
  · rintro ⟨part, hTaken, rfl, rfl⟩
    exact takeAlign_append hTaken

theorem takeSign_eq
    (text : Text) :
    takeSign text =
      ((splitChar isSignChar text).1.bind Sign.ofChar?,
        (splitChar isSignChar text).2) := by
  cases text with
  | nil => rfl
  | cons c rest =>
      rw [takeSign, splitChar, isSignChar_eq_isSome]
      cases hSign : Sign.ofChar? c with
      | none => rfl
      | some sign => simp [hSign]

theorem takeSign_eq_iff
    {text rest : Text}
    {sign : Option Sign} :
    takeSign text = (sign, rest) ↔
      ∃ part,
        CharTaken isSignChar part rest ∧
        part.toList ++ rest = text ∧
        part.bind Sign.ofChar? = sign := by
  rw [takeSign_eq]
  constructor
  · intro hTake
    cases hTake
    rcases splitChar_eq_iff.mp
        (rfl : splitChar isSignChar text = _) with
      ⟨hTaken, hText⟩
    exact ⟨_, hTaken, hText, rfl⟩
  · rintro ⟨part, hTaken, hText, rfl⟩
    rw [splitChar_eq_iff.mpr ⟨hTaken, hText⟩]

theorem takeSign_of_startsIn
    {text : Text}
    (hStarts : Text.StartsIn Char.isAlphanum text) :
    takeSign text = (none, text) := by
  rcases hStarts with ⟨c, hHead, hClass⟩
  rcases List.head?_eq_some_iff.mp (Option.mem_def.mp hHead) with
    ⟨rest, rfl⟩
  rw [takeSign, ofChar?_of_isAlphanum hClass]

theorem takeFlag_eq_iff
    {flag : Char}
    {text rest : Text}
    {on : Bool} :
    takeFlag flag text = (on, rest) ↔
      FlagTaken flag on rest ∧
      flagText flag on ++ rest = text := by
  constructor
  · intro hTake
    cases text with
    | nil =>
        cases hTake
        exact ⟨fun _ => Text.not_startsIn_nil, rfl⟩
    | cons c behind =>
        rw [takeFlag] at hTake
        by_cases hFlag : c = flag
        · rw [if_pos hFlag] at hTake
          cases hTake
          simp [FlagTaken, flagText, hFlag]
        · rw [if_neg hFlag] at hTake
          cases hTake
          simp [FlagTaken, flagText, hFlag]
  · rintro ⟨hTaken, rfl⟩
    cases on with
    | true => simp [takeFlag, flagText]
    | false =>
        have hNext := hTaken rfl
        cases rest with
        | nil => rfl
        | cons c behind =>
            rw [Text.startsIn_cons, beq_iff_eq] at hNext
            simp [takeFlag, flagText, hNext]

theorem takeGrouping_eq
    (text : Text) :
    takeGrouping text = splitChar isGroupingChar text := by
  cases text with
  | nil => rfl
  | cons c rest =>
      simp [takeGrouping, splitChar, isGroupingChar]

/- A run of digits that is too large is no count at all. -/
theorem takeCount_eq_some_iff
    {text rest : Text}
    {count : Option Nat} :
    takeCount text = some (count, rest) ↔
      ∃ part,
        CountTaken part rest ∧
        (∀ found ∈ part, ¬ found.IsHuge) ∧
        countText part ++ rest = text ∧
        part.bind Count.number? = count := by
  constructor
  · intro hTake
    have hWhole :=
      List.takeWhile_append_dropWhile (p := Char.isDigit)
        (l := text)
    have hRest :
        ¬ Text.StartsIn Char.isDigit
            (text.dropWhile Char.isDigit) :=
      Text.not_startsIn_dropWhile text
    simp only [takeCount, List.isEmpty_iff] at hTake
    split at hTake
    case isTrue hEmpty =>
        cases hTake
        rw [hEmpty] at hWhole
        exact ⟨none, hRest, by simp, hWhole, rfl⟩
    case isFalse hSome =>
        split at hTake
        case isFalse => cases hTake
        case isTrue hSmall =>
            cases hTake
            refine
              ⟨some (.digits (text.takeWhile Char.isDigit)),
                ⟨hSome, ?_, hRest⟩, ?_, hWhole, rfl⟩
            · exact
                List.all_eq_true.mp
                  (List.all_takeWhile (p := Char.isDigit))
            · intro found hFound
              cases hFound
              exact Nat.not_lt.mpr hSmall
  · rintro ⟨part, hTaken, hSmall, rfl, rfl⟩
    simp only [takeCount, hTaken.run]
    rcases part with _ | ⟨digits⟩ | ⟨word⟩
    · simp [countText]
    · have hSome : digits ≠ [] := hTaken.1
      have hCount :
          Text.digitsValue digits ≤ maxCount :=
        Nat.not_lt.mp (hSmall _ rfl)
      simp [countText, Count.text, Count.number?, hSome,
        hCount]
    · exact hTaken.elim

theorem takePrecision_eq_some_iff
    {text rest : Text}
    {precision : Option Nat} :
    takePrecision text = some (precision, rest) ↔
      ∃ part,
        PrecisionTaken part rest ∧
        (∀ found ∈ part, ¬ found.IsHuge) ∧
        precisionText part ++ rest = text ∧
        part.bind Count.number? = precision := by
  constructor
  · intro hTake
    unfold takePrecision at hTake
    split at hTake
    case h_1 behind =>
        simp only [Option.bind_eq_bind,
          Option.bind_eq_some_iff, Prod.exists] at hTake
        rcases hTake with
          ⟨count, left, hCount, number, rfl, hFound⟩
        cases hFound
        rcases takeCount_eq_some_iff.mp hCount with
          ⟨part, hTaken, hSmall, rfl, hNumber⟩
        cases part with
        | none => cases hNumber
        | some found =>
            exact ⟨some found, hTaken, hSmall, rfl, hNumber⟩
    case h_2 hOther =>
        cases hTake
        refine ⟨none, ?_, by simp, rfl, rfl⟩
        rintro ⟨c, hHead, hPoint⟩
        rw [beq_iff_eq] at hPoint
        subst hPoint
        rcases List.head?_eq_some_iff.mp hHead with
          ⟨behind, rfl⟩
        exact hOther behind rfl
  · rintro ⟨part, hTaken, hSmall, rfl, rfl⟩
    cases part with
    | some found =>
        have hCount :=
          takeCount_eq_some_iff.mpr
            ⟨some found, hTaken, hSmall, rfl, rfl⟩
        rcases found with ⟨digits⟩ | ⟨word⟩
        · simp only [precisionText, Option.map_some,
            Option.getD_some, List.cons_append, takePrecision]
          simp only [countText, Option.map_some,
            Option.getD_some] at hCount
          simp [hCount, Count.number?]
        · exact hTaken.elim
    | none =>
        cases rest with
        | nil => rfl
        | cons c behind =>
            have hPoint : c ≠ '.' := by
              simpa [PrecisionTaken] using hTaken
            simp only [precisionText, Option.map_none,
              Option.getD_none, List.nil_append]
            unfold takePrecision
            split
            case h_1 hSame =>
                cases hSame
                exact absurd rfl hPoint
            case h_2 => rfl

theorem takeCode_eq_some_iff
    {text : Text}
    {code : Option Char} :
    takeCode text = some code ↔ code.toList = text := by
  match text with
  | [] => cases code with
      | none => simp [takeCode]
      | some c => simp [takeCode]
  | [c] => cases code with
      | none => simp [takeCode]
      | some d => simp [takeCode, eq_comm]
  | c :: d :: rest => cases code with
      | none => simp [takeCode]
      | some e => simp [takeCode]

end Spec

namespace SpecParts

namespace Greedy

variable {parts : SpecParts}

theorem takeAlign_text
    (hGreedy : parts.Greedy) :
    Spec.takeAlign parts.text =
      (alignOf parts.align, parts.fromSign) :=
  Spec.takeAlign_append hGreedy.align

theorem splitSign
    (hGreedy : parts.Greedy) :
    splitChar isSignChar parts.fromSign =
      (parts.sign, parts.fromAlternate) :=
  splitChar_eq_iff.mpr ⟨hGreedy.sign, rfl⟩

theorem takeAlternate
    (hGreedy : parts.Greedy) :
    Spec.takeFlag '#' parts.fromAlternate =
      (parts.alternate, parts.fromZero) :=
  Spec.takeFlag_eq_iff.mpr ⟨hGreedy.alternate, rfl⟩

theorem takeZero
    (hGreedy : parts.Greedy) :
    Spec.takeFlag '0' parts.fromZero =
      (parts.zero, parts.fromWidth) :=
  Spec.takeFlag_eq_iff.mpr ⟨hGreedy.zero, rfl⟩

theorem splitGrouping
    (hGreedy : parts.Greedy) :
    splitChar isGroupingChar parts.fromGrouping =
      (parts.grouping, parts.fromPrecision) :=
  splitChar_eq_iff.mpr ⟨hGreedy.grouping, rfl⟩

end Greedy

end SpecParts

end LogLine

------------------------------------------------------------
-- Reading Whole Specs
------------------------------------------------------------

namespace LogLine

namespace Spec

open SpecParts

/- What is read part by part is a greedy reading. -/
theorem exists_greedy_of_parse?
    {text : Text}
    {spec : Spec}
    (hParse : parse? text = some spec) :
    ∃ parts : SpecParts,
      parts.text = text ∧
      parts.Greedy ∧
      parts.Small ∧
      parts.toSpec = spec := by
  rcases hAlign : takeAlign text with ⟨⟨fill, align⟩, text₁⟩
  rcases hSign : takeSign text₁ with ⟨sign, text₂⟩
  rcases hAlternate : takeFlag '#' text₂ with
    ⟨alternate, text₃⟩
  rcases hZero : takeFlag '0' text₃ with ⟨zero, text₄⟩
  simp only [parse?, hAlign, hSign, hAlternate, hZero,
    Option.bind_eq_bind, Option.bind_eq_some_iff,
    Prod.exists] at hParse
  rcases hParse with
    ⟨width, text₅, hWidth, precision, text₇, hPrecision,
      code, hCode, hSpec⟩
  rcases hGrouping : takeGrouping text₅ with
    ⟨grouping, text₆⟩
  simp only [hGrouping] at hPrecision hSpec
  rcases takeAlign_eq_iff.mp hAlign with
    ⟨alignPart, hAlignTaken, rfl, hAlignOf⟩
  rcases takeSign_eq_iff.mp hSign with
    ⟨signPart, hSignTaken, rfl, rfl⟩
  rcases takeFlag_eq_iff.mp hAlternate with
    ⟨hAlternateTaken, rfl⟩
  rcases takeFlag_eq_iff.mp hZero with ⟨hZeroTaken, rfl⟩
  rcases takeCount_eq_some_iff.mp hWidth with
    ⟨widthPart, hWidthTaken, hWidthSmall, rfl, rfl⟩
  rw [takeGrouping_eq, splitChar_eq_iff] at hGrouping
  rcases hGrouping with ⟨hGroupingTaken, rfl⟩
  rcases takePrecision_eq_some_iff.mp hPrecision with
    ⟨precisionPart, hPrecisionTaken, hPrecisionSmall, rfl,
      rfl⟩
  rcases takeCode_eq_some_iff.mp hCode with rfl
  cases hSpec
  refine
    ⟨⟨alignPart, signPart, alternate, zero, widthPart,
        grouping, precisionPart, code⟩,
      rfl,
      ⟨hAlignTaken, hSignTaken, hAlternateTaken, hZeroTaken,
        hWidthTaken, hGroupingTaken, hPrecisionTaken⟩,
      ⟨hWidthSmall, hPrecisionSmall⟩, ?_⟩
  simp only [toSpec, hAlignOf]

/- A greedy reading is found part by part. -/
theorem parse?_text
    {parts : SpecParts}
    (hGreedy : parts.Greedy)
    (hSmall : parts.Small) :
    parse? parts.text = some parts.toSpec := by
  have hWidth :
      takeCount parts.fromWidth =
        some
          (parts.width.bind Count.number?,
            parts.fromGrouping) :=
    takeCount_eq_some_iff.mpr
      ⟨parts.width, hGreedy.width, hSmall.width, rfl, rfl⟩
  have hPrecision :
      takePrecision parts.fromPrecision =
        some
          (parts.precision.bind Count.number?,
            parts.fromCode) :=
    takePrecision_eq_some_iff.mpr
      ⟨parts.precision, hGreedy.precision,
        hSmall.precision, rfl, rfl⟩
  have hCode : takeCode parts.fromCode = some parts.code :=
    takeCode_eq_some_iff.mpr rfl
  simp [parse?, hGreedy.takeAlign_text, takeSign_eq,
    hGreedy.splitSign, hGreedy.takeAlternate,
    hGreedy.takeZero, hWidth, takeGrouping_eq,
    hGreedy.splitGrouping, hPrecision, hCode, toSpec]

/- A text is a spec exactly if it has a greedy reading. -/
theorem parse?_eq_some_iff
    {text : Text}
    {spec : Spec} :
    parse? text = some spec ↔
      ∃ parts : SpecParts,
        parts.text = text ∧
        parts.Greedy ∧
        parts.Small ∧
        parts.toSpec = spec := by
  constructor
  · exact exists_greedy_of_parse?
  · rintro ⟨parts, rfl, hGreedy, hSmall, rfl⟩
    exact parse?_text hGreedy hSmall

end Spec

end LogLine

------------------------------------------------------------
-- One Reading Only
------------------------------------------------------------

namespace LogLine

namespace SpecParts

theorem CountTaken.unique
    {first second : Option Count}
    {rest behind : Text}
    (hFirst : CountTaken first rest)
    (hSecond : CountTaken second behind)
    (hText :
      countText first ++ rest = countText second ++ behind) :
    first = second ∧ rest = behind := by
  have hRunFirst := hFirst.run
  have hRunSecond := hSecond.run
  rw [hText] at hRunFirst
  have hCount : countText first = countText second :=
    hRunFirst.1.symm.trans hRunSecond.1
  refine ⟨?_, hRunFirst.2.symm.trans hRunSecond.2⟩
  rcases first with _ | ⟨run⟩ | ⟨word⟩
  · rcases second with _ | ⟨run⟩ | ⟨word⟩
    · rfl
    · exact absurd hCount.symm hSecond.1
    · exact hSecond.elim
  · rcases second with _ | ⟨other⟩ | ⟨word⟩
    · exact absurd hCount hFirst.1
    · have hRun : run = other := hCount
      rw [hRun]
    · exact hSecond.elim
  · exact hFirst.elim

theorem PrecisionTaken.unique
    {first second : Option Count}
    {rest behind : Text}
    (hFirst : PrecisionTaken first rest)
    (hSecond : PrecisionTaken second behind)
    (hText :
      precisionText first ++ rest =
        precisionText second ++ behind) :
    first = second ∧ rest = behind := by
  cases first with
  | none =>
      cases second with
      | none => exact ⟨rfl, hText⟩
      | some count =>
          have hRest : rest = '.' :: (count.text ++ behind) :=
            hText
          rw [hRest] at hFirst
          exact absurd (Text.startsIn_cons.mpr rfl) hFirst
  | some count =>
      cases second with
      | none =>
          have hRest : '.' :: (count.text ++ rest) = behind :=
            hText
          rw [← hRest] at hSecond
          exact absurd (Text.startsIn_cons.mpr rfl) hSecond
      | some other =>
          have hBehind :
              countText (some count) ++ rest =
                countText (some other) ++ behind :=
            (List.cons.inj hText).2
          have hFirstCount : CountTaken (some count) rest :=
            hFirst
          exact hFirstCount.unique hSecond hBehind

/- A text has at most one greedy reading. -/
theorem Greedy.unique
    {first second : SpecParts}
    (hFirst : first.Greedy)
    (hSecond : second.Greedy)
    (hText : first.text = second.text) :
    first = second := by
  have hAlign :
      (alignOf first.align, first.fromSign) =
        (alignOf second.align, second.fromSign) := by
    rw [← hFirst.takeAlign_text, ← hSecond.takeAlign_text,
      hText]
  have hFromSign : first.fromSign = second.fromSign :=
    (Prod.mk.inj hAlign).2
  have hAlignSame : first.align = second.align := by
    unfold text at hText
    rw [hFromSign] at hText
    exact List.append_cancel_right hText
  have hSign :
      (first.sign, first.fromAlternate) =
        (second.sign, second.fromAlternate) := by
    rw [← hFirst.splitSign, ← hSecond.splitSign, hFromSign]
  have hAlternate :
      (first.alternate, first.fromZero) =
        (second.alternate, second.fromZero) := by
    rw [← hFirst.takeAlternate, ← hSecond.takeAlternate,
      (Prod.mk.inj hSign).2]
  have hZero :
      (first.zero, first.fromWidth) =
        (second.zero, second.fromWidth) := by
    rw [← hFirst.takeZero, ← hSecond.takeZero,
      (Prod.mk.inj hAlternate).2]
  have hWidth :=
    hFirst.width.unique hSecond.width (Prod.mk.inj hZero).2
  have hGrouping :
      (first.grouping, first.fromPrecision) =
        (second.grouping, second.fromPrecision) := by
    rw [← hFirst.splitGrouping, ← hSecond.splitGrouping,
      hWidth.2]
  have hPrecision :=
    hFirst.precision.unique hSecond.precision
      (Prod.mk.inj hGrouping).2
  have hCode : first.code = second.code := by
    rw [← Option.some_inj, ← Spec.takeCode_eq_some_iff.mpr rfl,
      ← Spec.takeCode_eq_some_iff.mpr rfl]
    exact congrArg Spec.takeCode hPrecision.2
  cases first
  cases second
  simp_all

/- Of two readings of one text the flag takes the zero. -/
example :
    (⟨[], none, false, true, some (.digits ['7']),
        none, none, none⟩ : SpecParts).Greedy ∧
      ¬ (⟨[], none, false, false, some (.digits ['0', '7']),
          none, none, none⟩ : SpecParts).Greedy := by
  decide

end SpecParts

end LogLine

------------------------------------------------------------
-- Characters of Parts
------------------------------------------------------------

namespace LogLine

/- Whether a character may stand in a count. -/
def isCountChar
    (c : Char) :
    Bool :=
  isWordChar c || isDecimalDigit c || c == '{' || c == '}'

/- These characters stand around the counts of a spec. -/
theorem isCountChar_eq_false :
    ∀ c ∈ ['<', '>', '=', '^', '+', '-', ' ', '#', ',', '.'],
      isCountChar c = false := by
  decide +kernel

/- A count is a run of digits or a word in braces. -/
def Count.Fits : Count → Prop
  | digits run =>
      run ≠ [] ∧ ∀ c ∈ run, isDecimalDigit c = true
  | nested word =>
      word ≠ [] ∧ ∀ c ∈ word, isWordChar c = true

/- The digits of ASCII are decimal digits. -/
theorem isDecimalDigit_of_isDigit
    {c : Char}
    (hDigit : c.isDigit = true) :
    isDecimalDigit c = true := by
  rcases Char.isDigit_iff_toNat.mp hDigit with ⟨hLow, hHigh⟩
  have hLow : 0x30 ≤ c.toNat := hLow
  have hHigh : c.toNat ≤ 0x39 := hHigh
  unfold isDecimalDigit inRanges decimalDigitRanges
  rw [List.any_cons, Bool.or_eq_true]
  left
  simp [hLow, hHigh]

namespace Count

theorem Fits.isCountChar_of_mem
    {count : Count}
    (hFits : count.Fits)
    {c : Char}
    (hMem : c ∈ count.text) :
    isCountChar c = true := by
  cases count with
  | digits run => simp [isCountChar, hFits.2 c hMem]
  | nested word =>
      simp only [text, List.cons_append, List.mem_cons,
        List.mem_append, List.not_mem_nil, or_false] at hMem
      rcases hMem with rfl | hWord | rfl
      · simp [isCountChar]
      · simp [isCountChar, hFits.2 c hWord]
      · simp [isCountChar]

end Count

namespace SpecParts

/- The parts between the alignment and the code are in order. -/
structure InClasses
    (parts : SpecParts) : Prop where
  sign : ∀ c ∈ parts.sign, isSignChar c = true
  width : ∀ count ∈ parts.width, count.Fits
  grouping : ∀ c ∈ parts.grouping, isGroupingChar c = true
  precision : ∀ count ∈ parts.precision, count.Fits

theorem fits_of_countTaken
    {part : Option Count}
    {rest : Text}
    (hTaken : ∀ count ∈ part, CountTaken (some count) rest) :
    ∀ count ∈ part, count.Fits := by
  intro count hCount
  have hDigits := hTaken count hCount
  cases count with
  | digits run =>
      exact
        ⟨hDigits.1, fun c hMem =>
          isDecimalDigit_of_isDigit (hDigits.2.1 c hMem)⟩
  | nested word => exact hDigits.elim

theorem Greedy.inClasses
    {parts : SpecParts}
    (hGreedy : parts.Greedy) :
    parts.InClasses where
  sign := hGreedy.sign.mem_class
  width := fits_of_countTaken hGreedy.width.countTaken
  grouping := hGreedy.grouping.mem_class
  precision := fits_of_countTaken hGreedy.precision.countTaken

/- Whether a character may stand between `#` and the code. -/
def isInnerChar
    (c : Char) :
    Bool :=
  isCountChar c || isGroupingChar c || c == '.'

namespace InClasses

variable {parts : SpecParts}

theorem mem_fromZero
    (hClasses : parts.InClasses)
    {c : Char}
    (hMem : c ∈ parts.fromZero) :
    isInnerChar c = true ∨ c ∈ parts.code := by
  have hDigit : isDecimalDigit '0' = true :=
    isDecimalDigit_of_isDigit rfl
  simp only [fromZero, fromWidth, fromGrouping, fromPrecision,
    fromCode, List.mem_append, Option.mem_toList] at hMem
  rcases hMem with hFlag | hWidth | hGrouping | hPrecision |
    hCode
  · left
    unfold flagText at hFlag
    split at hFlag
    · simp [isInnerChar, isCountChar,
        List.mem_singleton.mp hFlag, hDigit]
    · cases hFlag
  · left
    cases hCount : parts.width with
    | none => simp [countText, hCount] at hWidth
    | some count =>
        rw [hCount] at hWidth
        have hChar :=
          (hClasses.width count hCount).isCountChar_of_mem hWidth
        simp [isInnerChar, hChar]
  · left
    simp [isInnerChar, hClasses.grouping c hGrouping]
  · left
    cases hCount : parts.precision with
    | none => simp [precisionText, hCount] at hPrecision
    | some count =>
        rw [hCount] at hPrecision
        rcases List.mem_cons.mp hPrecision with hPoint | hInside
        · simp [isInnerChar, hPoint]
        · have hChar :=
            (hClasses.precision count
              hCount).isCountChar_of_mem hInside
          simp [isInnerChar, hChar]
  · exact Or.inr hCode

theorem mem_fromAlternate
    (hClasses : parts.InClasses)
    {c : Char}
    (hMem : c ∈ parts.fromAlternate) :
    c = '#' ∨ isInnerChar c = true ∨ c ∈ parts.code := by
  rcases List.mem_append.mp hMem with hFlag | hBehind
  · unfold flagText at hFlag
    split at hFlag
    · exact Or.inl (List.mem_singleton.mp hFlag)
    · cases hFlag
  · exact Or.inr (hClasses.mem_fromZero hBehind)

theorem mem_fromSign
    (hClasses : parts.InClasses)
    {c : Char}
    (hMem : c ∈ parts.fromSign) :
    isSignChar c = true ∨ c = '#' ∨ isInnerChar c = true ∨
      c ∈ parts.code := by
  rcases List.mem_append.mp hMem with hSign | hBehind
  · exact
      Or.inl (hClasses.sign c (Option.mem_toList.mp hSign))
  · exact Or.inr (hClasses.mem_fromAlternate hBehind)

end InClasses

/- What aligns is neither a sign nor stands behind one. -/
theorem classes_of_isAlignChar
    {c : Char}
    (hAlign : isAlignChar c = true) :
    isSignChar c = false ∧ c ≠ '#' ∧
      isInnerChar c = false := by
  have hCases : c = '<' ∨ c = '>' ∨ c = '=' ∨ c = '^' := by
    simpa [isAlignChar] using hAlign
  rcases hCases with rfl | rfl | rfl | rfl
  all_goals
    simp [isSignChar, isInnerChar, isGroupingChar,
      isCountChar_eq_false]

/- Only the code can be a character that aligns. -/
theorem InClasses.mem_code_of_isAlignChar
    {parts : SpecParts}
    (hClasses : parts.InClasses)
    {c : Char}
    (hMem : c ∈ parts.fromSign)
    (hAlign : isAlignChar c = true) :
    c ∈ parts.code := by
  rcases classes_of_isAlignChar hAlign with
    ⟨hNoSign, hNoFlag, hNotInner⟩
  rcases hClasses.mem_fromSign hMem with
    hSign | hFlag | hInner | hCode
  · rw [hNoSign] at hSign
    cases hSign
  · exact absurd hFlag hNoFlag
  · rw [hNotInner] at hInner
    cases hInner
  · exact hCode

end SpecParts

end LogLine
