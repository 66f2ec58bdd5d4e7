import LogLine.Proofs.Format.SpecGrammar
import Mathlib.Data.List.Induction

/-
  Writing a spec in the order of the grammar, and what the
  reader of specs accepts as a whole.

  Key definitions include:
    * `LogLine.SpecParts.shortened`

  Key theorems include:
    * `LogLine.Text.ofNat_digitsValue`
    * `LogLine.SpecParts.Greedy.shortened`
    * `LogLine.Spec.parse?_write`
    * `LogLine.parse_accepts_exactly_greedy_readings`

  A spec keeps the numbers of its counts but not their zeros
  in front.  The text that is written is shorter than the one
  that was read, and still each part ends where it did.
-/

------------------------------------------------------------
-- Numbers in Decimal
------------------------------------------------------------

namespace LogLine

namespace Text

/- The last digit counts once, what is in front of it ten times. -/
theorem digitsValue_concat
    (digits : Text)
    (c : Char) :
    digitsValue (digits ++ [c]) =
      10 * digitsValue digits + (c.toNat - 48) := by
  rw [digitsValue, Nat.ofDigitChars_append,
    Nat.ofDigitChars_cons, Nat.ofDigitChars_nil]
  rfl

theorem digitsValue_ofNat
    (n : Nat) :
    digitsValue (ofNat n) = n :=
  Nat.ofDigitChars_ten_toDigits

theorem digitChar_of_isDigit
    {c : Char}
    (hDigit : c.isDigit = true) :
    Nat.digitChar (c.toNat - 48) = c := by
  have hRange : 48 ≤ c.toNat ∧ c.toNat ≤ 57 :=
    Char.isDigit_iff_toNat.mp hDigit
  rw [← Char.toNat_inj,
    Nat.toNat_digitChar_of_lt_ten (by omega)]
  omega

/-
  Digits that do not begin with a zero are the decimal form of
  their number; induction goes from the last digit.
-/
theorem ofNat_digitsValue
    {digits : Text}
    (hSome : digits ≠ [])
    (hDigits : ∀ c ∈ digits, c.isDigit = true)
    (hLead : digits.head? ≠ some '0') :
    ofNat (digitsValue digits) = digits := by
  induction digits using List.reverseRecOn with
  | nil => exact absurd rfl hSome
  | append_singleton front c ih =>
      have hLast := hDigits c (by simp)
      have hRange : 48 ≤ c.toNat ∧ c.toNat ≤ 57 :=
        Char.isDigit_iff_toNat.mp hLast
      rw [digitsValue_concat, ofNat]
      by_cases hFront : front = []
      · subst hFront
        have hValue : digitsValue [] = 0 := rfl
        rw [hValue, Nat.mul_zero, Nat.zero_add,
          Nat.toDigits_of_lt_base (by omega),
          digitChar_of_isDigit hLast, List.nil_append]
      · have hHead : front.head? ≠ some '0' := by
          rwa [List.head?_append_of_ne_nil _ hFront] at hLead
        have hSame :=
          ih hFront
            (fun d hMem =>
              hDigits d (List.mem_append_left _ hMem))
            hHead
        have hPos : 0 < digitsValue front := by
          rw [Nat.pos_iff_ne_zero]
          intro hZero
          rw [hZero] at hSame
          rw [← hSame] at hHead
          exact hHead rfl
        have hDigit : c.toNat - 48 < 10 := by omega
        rw [← Nat.toDigits_append_toDigits (by omega) hPos
            hDigit,
          Nat.toDigits_of_lt_base hDigit,
          digitChar_of_isDigit hLast]
        exact congrArg (· ++ [c]) hSame

end Text

end LogLine

------------------------------------------------------------
-- Parts as They Are Written
------------------------------------------------------------

namespace LogLine

theorem Align.toChar_of_ofChar?
    {c : Char}
    {align : Align}
    (hAlign : ofChar? c = some align) :
    align.toChar = c := by
  unfold ofChar? at hAlign
  split at hAlign
  all_goals cases hAlign
  all_goals rfl

theorem Sign.toChar_of_ofChar?
    {c : Char}
    {sign : Sign}
    (hSign : ofChar? c = some sign) :
    sign.toChar = c := by
  unfold ofChar? at hSign
  split at hSign
  all_goals cases hSign
  all_goals rfl

/- Every part is written as a text of its own. -/
theorem Spec.write_eq
    (spec : Spec) :
    spec.write =
      (spec.fill.toList ++
        (spec.align.map Align.toChar).toList) ++
      ((spec.sign.map Sign.toChar).toList ++
      (SpecParts.flagText '#' spec.alternate ++
      (SpecParts.flagText '0' spec.zero ++
      ((spec.width.map Text.ofNat).getD [] ++
      (spec.grouping.toList ++
      (((spec.precision.map Text.ofNat).map
          ('.' :: ·)).getD [] ++
      spec.code.toList)))))) := by
  unfold write
  cases spec.width with
  | none =>
      cases spec.precision with
      | none => simp [SpecParts.flagText]
      | some precision => simp [SpecParts.flagText]
  | some width =>
      cases spec.precision with
      | none => simp [SpecParts.flagText]
      | some precision => simp [SpecParts.flagText]

end LogLine

------------------------------------------------------------
-- Counts without Zeros in Front
------------------------------------------------------------

namespace LogLine

namespace Count

/- The count without zeros in front. -/
def shortened : Count → Count
  | digits run => .digits (Text.ofNat (Text.digitsValue run))
  | nested word => nested word

@[simp]
theorem number?_shortened
    (count : Count) :
    count.shortened.number? = count.number? := by
  cases count with
  | digits run =>
      exact congrArg some (Text.digitsValue_ofNat _)
  | nested word => rfl

@[simp]
theorem isHuge_shortened
    {count : Count} :
    count.shortened.IsHuge ↔ count.IsHuge := by
  cases count with
  | digits run =>
      simp only [shortened, IsHuge, Text.digitsValue_ofNat]
  | nested word => exact Iff.rfl

theorem length_text_shortened_pos
    (count : Count) :
    0 < count.shortened.text.length := by
  cases count with
  | digits run => exact Nat.length_toDigits_pos
  | nested word => simp [shortened, text]

end Count

namespace SpecParts

/- The parts with no zeros in front of a count. -/
def shortened
    (parts : SpecParts) :
    SpecParts :=
  { parts with
    width := parts.width.map Count.shortened
    precision := parts.precision.map Count.shortened }

theorem toSpec_shortened
    (parts : SpecParts) :
    parts.shortened.toSpec = parts.toSpec := by
  have hNumber (count : Option Count) :
      (count.map Count.shortened).bind Count.number? =
        count.bind Count.number? := by
    cases count with
    | none => rfl
    | some count => exact count.number?_shortened
  simp only [toSpec, shortened, hNumber]

theorem Small.shortened
    {parts : SpecParts}
    (hSmall : parts.Small) :
    parts.shortened.Small := by
  constructor
  · intro count hCount
    rcases Option.map_eq_some_iff.mp hCount with
      ⟨found, hFound, rfl⟩
    rw [Count.isHuge_shortened]
    exact hSmall.width found hFound
  · intro count hCount
    rcases Option.map_eq_some_iff.mp hCount with
      ⟨found, hFound, rfl⟩
    rw [Count.isHuge_shortened]
    exact hSmall.precision found hFound

theorem CountTaken.shortened
    {part : Option Count}
    {rest behind : Text}
    (hTaken : CountTaken part rest)
    (hHead : behind.head? = rest.head?) :
    CountTaken (part.map Count.shortened) behind := by
  have hSame :
      Text.StartsIn Char.isDigit behind ↔
        Text.StartsIn Char.isDigit rest :=
    Text.startsIn_congr hHead
  rcases part with _ | ⟨run⟩ | ⟨word⟩
  · exact mt hSame.mp hTaken
  · exact
      ⟨Nat.toDigits_ne_nil,
        fun c hMem =>
          Nat.isDigit_of_mem_toDigits (by omega) (by omega)
            hMem,
        mt hSame.mp hTaken.2.2⟩
  · exact hTaken.elim

theorem PrecisionTaken.shortened
    {part : Option Count}
    {rest : Text}
    (hTaken : PrecisionTaken part rest) :
    PrecisionTaken (part.map Count.shortened) rest := by
  cases part with
  | none => exact hTaken
  | some count =>
      have hCount : CountTaken (some count) rest := hTaken
      exact hCount.shortened rfl

/- A width behind no zero flag has no zeros in front. -/
theorem Greedy.shortened_width
    {parts : SpecParts}
    (hGreedy : parts.Greedy)
    (hZero : parts.zero = false) :
    parts.shortened.width = parts.width := by
  have hLead := hGreedy.zero hZero
  have hWidth := hGreedy.width
  unfold fromWidth at hLead
  unfold shortened
  cases hPart : parts.width with
  | none => rfl
  | some count =>
      rw [hPart] at hLead hWidth
      cases count with
      | nested word => exact hWidth.elim
      | digits run =>
          rcases hWidth with ⟨hSome, hDigits, hRest⟩
          have hHead : run.head? ≠ some '0' := by
            intro hHead
            refine hLead ?_
            rw [countText, Option.map_some, Option.getD_some,
              Count.text,
              Text.startsIn_append_of_ne_nil hSome]
            exact ⟨'0', hHead, rfl⟩
          simp only [Option.map_some, Count.shortened,
            Text.ofNat_digitsValue hSome hDigits hHead]

end SpecParts

end LogLine

------------------------------------------------------------
-- What Stands First
------------------------------------------------------------

namespace LogLine

namespace SpecParts

/-
  Shorter counts do not change what stands first: behind the
  zero flag only, a width can lose its first character.
-/
theorem head?_fromPrecision_shortened
    (parts : SpecParts) :
    parts.shortened.fromPrecision.head? =
      parts.fromPrecision.head? := by
  unfold fromPrecision shortened
  cases parts.precision with
  | none => rfl
  | some count => rfl

theorem head?_fromGrouping_shortened
    (parts : SpecParts) :
    parts.shortened.fromGrouping.head? =
      parts.fromGrouping.head? := by
  have hBehind := parts.head?_fromPrecision_shortened
  unfold fromGrouping
  rw [List.head?_append, List.head?_append, hBehind]
  rfl

theorem Greedy.head?_fromZero_shortened
    {parts : SpecParts}
    (hGreedy : parts.Greedy) :
    parts.shortened.fromZero.head? = parts.fromZero.head? := by
  have hBehind := parts.head?_fromGrouping_shortened
  have hFlag : parts.shortened.zero = parts.zero := rfl
  unfold fromZero
  rw [hFlag]
  cases hZero : parts.zero with
  | true => rfl
  | false =>
      rw [flagText, if_neg Bool.false_ne_true,
        List.nil_append, List.nil_append, fromWidth, fromWidth,
        hGreedy.shortened_width hZero, List.head?_append,
        List.head?_append, hBehind]

theorem Greedy.head?_fromAlternate_shortened
    {parts : SpecParts}
    (hGreedy : parts.Greedy) :
    parts.shortened.fromAlternate.head? =
      parts.fromAlternate.head? := by
  have hBehind := hGreedy.head?_fromZero_shortened
  unfold fromAlternate
  rw [List.head?_append, List.head?_append, hBehind]
  rfl

end SpecParts

end LogLine

------------------------------------------------------------
-- How Far an Alignment Looks
------------------------------------------------------------

namespace LogLine

namespace SpecParts

/- All behind the alignment but the code. -/
def front
    (parts : SpecParts) :
    Text :=
  { parts with code := none }.fromSign

theorem front_append_fromCode
    (parts : SpecParts) :
    parts.front ++ parts.fromCode = parts.fromSign := by
  simp only [front, fromSign, fromAlternate, fromZero,
    fromWidth, fromGrouping, fromPrecision, fromCode,
    Option.toList_none, List.append_nil, List.append_assoc]

theorem InClasses.isAlignChar_of_mem_front
    {parts : SpecParts}
    (hClasses : parts.InClasses) :
    ∀ c ∈ parts.front, isAlignChar c = false := by
  intro c hMem
  have hBare : { parts with code := none }.InClasses :=
    ⟨hClasses.sign, hClasses.width, hClasses.grouping,
      hClasses.precision⟩
  rw [← Bool.not_eq_true]
  intro hAlign
  cases hBare.mem_code_of_isAlignChar hMem hAlign

theorem length_front
    (parts : SpecParts) :
    parts.front.length =
      parts.sign.toList.length +
      (flagText '#' parts.alternate).length +
      (flagText '0' parts.zero).length +
      (countText parts.width).length +
      parts.grouping.toList.length +
      (precisionText parts.precision).length := by
  simp only [front, fromSign, fromAlternate, fromZero,
    fromWidth, fromGrouping, fromPrecision, fromCode,
    Option.toList_none, List.append_nil, List.length_append,
    Nat.add_assoc]

/-
  With shorter counts at least two characters stay in front of
  the code, if there were as many.
-/
theorem Greedy.length_front_shortened
    {parts : SpecParts}
    (hGreedy : parts.Greedy) :
    min 2 parts.front.length ≤
      parts.shortened.front.length := by
  have hWidth := hGreedy.shortened_width
  rw [length_front, length_front]
  simp only [shortened] at hWidth ⊢
  cases parts.precision with
  | some count =>
      -- A point and a digit are two characters.
      have hPos := count.length_text_shortened_pos
      simp only [Option.map_some, precisionText,
        Option.getD_some, List.length_cons]
      omega
  | none =>
      cases hZero : parts.zero with
      | false =>
          rw [hWidth hZero]
          exact Nat.min_le_right _ _
      | true =>
          cases parts.width with
          | none => exact Nat.min_le_right _ _
          | some count =>
              -- So are the zero flag and a digit.
              have hPos := count.length_text_shortened_pos
              simp only [Option.map_some, countText,
                Option.getD_some, flagText, if_true,
                List.length_singleton]
              omega

/-
  If only what stands behind `front` can align, a `shorter`
  front that is as long in the first `n` places changes
  nothing there.
-/
theorem not_isAlignChar_of_mem_take
    {front shorter behind : Text}
    {n : Nat}
    (hNext :
      ∀ c ∈ (front ++ behind).take n, isAlignChar c = false)
    (hShorter : ∀ c ∈ shorter, isAlignChar c = false)
    (hLength : min n front.length ≤ shorter.length) :
    ∀ c ∈ (shorter ++ behind).take n,
      isAlignChar c = false := by
  intro c hMem
  rw [List.take_append, List.mem_append] at hMem
  rcases hMem with hFront | hBehind
  · exact hShorter c (List.mem_of_mem_take hFront)
  · refine hNext c ?_
    rw [List.take_append, List.mem_append]
    right
    exact
      (List.take_subset_take_left behind (by omega)) hBehind

end SpecParts

end LogLine

------------------------------------------------------------
-- Readings without Zeros in Front
------------------------------------------------------------

namespace LogLine

namespace SpecParts

theorem AlignTaken.congr
    {part rest behind : Text}
    (hTaken : AlignTaken part rest)
    (hNext :
      ∀ n ≤ 2,
        (∀ c ∈ rest.take n, isAlignChar c = false) →
          ∀ c ∈ behind.take n, isAlignChar c = false) :
    AlignTaken part behind := by
  cases hTaken with
  | filled hAlign => exact .filled hAlign
  | unfilled hAlign hFree =>
      exact .unfilled hAlign (hNext 1 (by omega) hFree)
  | absent hFree => exact .absent (hNext 2 (by omega) hFree)

theorem CharTaken.congr
    {inClass : Char → Bool}
    {part : Option Char}
    {rest behind : Text}
    (hTaken : CharTaken inClass part rest)
    (hHead : behind.head? = rest.head?) :
    CharTaken inClass part behind := by
  cases part with
  | some c => exact hTaken
  | none => exact mt (Text.startsIn_congr hHead).mp hTaken

theorem FlagTaken.congr
    {flag : Char}
    {on : Bool}
    {rest behind : Text}
    (hTaken : FlagTaken flag on rest)
    (hHead : behind.head? = rest.head?) :
    FlagTaken flag on behind :=
  fun hOff => mt (Text.startsIn_congr hHead).mp (hTaken hOff)

/- Without zeros in front of its counts a text reads the same. -/
theorem Greedy.shortened
    {parts : SpecParts}
    (hGreedy : parts.Greedy) :
    parts.shortened.Greedy := by
  have hWidth :
      CountTaken parts.shortened.width
        parts.shortened.fromGrouping :=
    hGreedy.width.shortened parts.head?_fromGrouping_shortened
  have hPrecision :
      PrecisionTaken parts.shortened.precision
        parts.shortened.fromCode :=
    hGreedy.precision.shortened
  have hClasses : parts.shortened.InClasses :=
    { sign := hGreedy.sign.mem_class
      width := fits_of_countTaken hWidth.countTaken
      grouping := hGreedy.grouping.mem_class
      precision :=
        fits_of_countTaken hPrecision.countTaken }
  constructor
  case align =>
      -- Only the code can align, and it stays out of sight.
      refine hGreedy.align.congr ?_
      intro n hLe hNext
      rw [← front_append_fromCode] at hNext ⊢
      refine
        not_isAlignChar_of_mem_take hNext
          hClasses.isAlignChar_of_mem_front ?_
      have hLength := hGreedy.length_front_shortened
      omega
  case sign =>
      exact
        hGreedy.sign.congr hGreedy.head?_fromAlternate_shortened
  case alternate =>
      exact
        hGreedy.alternate.congr hGreedy.head?_fromZero_shortened
  case zero =>
      -- Without the flag the width is what it was.
      intro hOff
      refine mt (Text.startsIn_congr ?_).mp (hGreedy.zero hOff)
      unfold fromWidth
      rw [hGreedy.shortened_width hOff, List.head?_append,
        List.head?_append, head?_fromGrouping_shortened]
  case width => exact hWidth
  case grouping =>
      exact
        hGreedy.grouping.congr
          parts.head?_fromPrecision_shortened
  case precision => exact hPrecision

end SpecParts

end LogLine

------------------------------------------------------------
-- Writing and Reading Again
------------------------------------------------------------

namespace LogLine

namespace SpecParts

theorem AlignTaken.write_alignOf
    {part rest : Text}
    (hTaken : AlignTaken part rest) :
    (alignOf part).1.toList ++
        ((alignOf part).2.map Align.toChar).toList =
      part := by
  have hAligned {c : Char} (hAlign : isAlignChar c = true) :
      (Align.ofChar? c).map Align.toChar = some c := by
    rcases exists_align_of_isAlignChar hAlign with
      ⟨align, hFound⟩
    rw [hFound, Option.map_some,
      Align.toChar_of_ofChar? hFound]
  cases hTaken with
  | filled hAlign => simp [alignOf, hAligned hAlign]
  | unfilled hAlign hNext => simp [alignOf, hAligned hAlign]
  | absent hNext => rfl

theorem CharTaken.write_sign
    {part : Option Char}
    {rest : Text}
    (hTaken : CharTaken isSignChar part rest) :
    (part.bind Sign.ofChar?).map Sign.toChar = part := by
  cases part with
  | none => rfl
  | some c =>
      simp only [CharTaken, isSignChar_eq_isSome] at hTaken
      rcases Option.isSome_iff_exists.mp hTaken with
        ⟨sign, hFound⟩
      rw [Option.bind_some, hFound, Option.map_some,
        Sign.toChar_of_ofChar? hFound]

theorem write_number?
    {part : Option Count}
    {rest : Text}
    (hTaken : ∀ count ∈ part, CountTaken (some count) rest) :
    (part.bind Count.number?).map Text.ofNat =
      (part.map Count.shortened).map Count.text := by
  rcases part with _ | ⟨run⟩ | ⟨word⟩
  · rfl
  · rfl
  · exact (hTaken _ rfl).elim

/- What a reading gives is written as the text without zeros. -/
theorem Greedy.write_toSpec
    {parts : SpecParts}
    (hGreedy : parts.Greedy) :
    parts.toSpec.write = parts.shortened.text := by
  have hWidth := write_number? hGreedy.width.countTaken
  have hPrecision := write_number? hGreedy.precision.countTaken
  simp only [Spec.write_eq, toSpec,
    hGreedy.align.write_alignOf, hGreedy.sign.write_sign,
    hWidth, hPrecision]
  rfl

end SpecParts

/- Writing the spec of a text and reading that changes nothing. -/
theorem Spec.parse?_write
    {text : Text}
    {spec : Spec}
    (hParse : parse? text = some spec) :
    parse? spec.write = some spec := by
  rcases parse?_eq_some_iff.mp hParse with
    ⟨parts, -, hGreedy, hSmall, rfl⟩
  rw [hGreedy.write_toSpec]
  exact
    parse?_eq_some_iff.mpr
      ⟨parts.shortened, rfl, hGreedy.shortened,
        hSmall.shortened, parts.toSpec_shortened⟩

end LogLine

------------------------------------------------------------
-- What the Reader Accepts
------------------------------------------------------------

namespace LogLine

/-
  A text is a spec exactly if it has a greedy reading whose
  counts are small, and the spec holds the parts of that
  reading, the only one that the text has.  Any other text is
  reported as it is.  A spec that is written in the order of
  the grammar is read as itself.
-/
theorem parse_accepts_exactly_greedy_readings
    (text : Text) :
    (∀ spec,
      Spec.parse text = .ok spec ↔
        ∃ parts : SpecParts,
          parts.text = text ∧
          parts.Greedy ∧
          parts.Small ∧
          parts.toSpec = spec) ∧
    (∀ failure,
      Spec.parse text = .error failure ↔
        failure = .invalidSpec text ∧
        ¬ ∃ parts : SpecParts,
            parts.text = text ∧
            parts.Greedy ∧
            parts.Small) ∧
    (∀ first second : SpecParts,
      first.text = text ∧ first.Greedy →
      second.text = text ∧ second.Greedy →
      first = second) ∧
    (∀ spec,
      Spec.parse text = .ok spec →
      Spec.parse spec.write = .ok spec) := by
  refine ⟨?_, ?_, ?_, ?_⟩
  · intro spec
    rw [Spec.parse_eq_ok_iff, Spec.parse?_eq_some_iff]
  · intro failure
    rw [Spec.parse_eq_error_iff,
      Option.eq_none_iff_forall_ne_some]
    refine and_congr_right fun _ => ?_
    constructor
    · rintro hNone ⟨parts, hText, hGreedy, hSmall⟩
      exact
        hNone parts.toSpec
          (Spec.parse?_eq_some_iff.mpr
            ⟨parts, hText, hGreedy, hSmall, rfl⟩)
    · rintro hNone spec hParse
      rcases Spec.parse?_eq_some_iff.mp hParse with
        ⟨parts, hText, hGreedy, hSmall, -⟩
      exact hNone ⟨parts, hText, hGreedy, hSmall⟩
  · rintro first second ⟨hFirstText, hFirst⟩
      ⟨hSecondText, hSecond⟩
    exact
      hFirst.unique hSecond (hFirstText.trans hSecondText.symm)
  · intro spec hParse
    rw [Spec.parse_eq_ok_iff] at hParse ⊢
    exact Spec.parse?_write hParse

/-
  A digit fills here, the first zero is the flag, and the width
  and the precision lose theirs.
-/
theorem parse_accepts_exactly_greedy_readings_of_zeros :
    Spec.parse "0^+#0007_.0050=".toList =
        .ok
          ⟨some '0', some .center, some .plus, true, true,
            some 7, some '_', some 50, some '='⟩ ∧
      Spec.parse "0^+#07_.50=".toList =
        .ok
          ⟨some '0', some .center, some .plus, true, true,
            some 7, some '_', some 50, some '='⟩ :=
  ⟨rfl,
    (parse_accepts_exactly_greedy_readings
      "0^+#0007_.0050=".toList).2.2.2
      ⟨some '0', some .center, some .plus, true, true,
        some 7, some '_', some 50, some '='⟩
      rfl⟩

end LogLine
