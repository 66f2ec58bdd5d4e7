import LogLine.Proofs.Decimal.Rounding
import LogLine.Proofs.Format.NumberText
import LogLine.Proofs.Text.Digits
import Mathlib.Data.List.DropRight
import Mathlib.Tactic.FieldSimp

/-
  Decimal text, with or without a point and an exponent, and
  the rational number that it stands for.

  Key definitions include:
    * `LogLine.readDecimal?`
    * `LogLine.Pointed`
    * `LogLine.Pointed.ofUnits`
    * `LogLine.Pointed.trimmed`

  Key theorems include:
    * `LogLine.Pointed.readFraction?_text`
    * `LogLine.Pointed.text_ofUnits`
    * `LogLine.Pointed.trimFraction_text`
    * `LogLine.Pointed.value_trimmed`
    * `LogLine.exists_exponentText_eq`
    * `LogLine.normalizeExponent_append`
    * `LogLine.Pointed.dropTrailingZeros_text_append`
-/

------------------------------------------------------------
-- Reading
------------------------------------------------------------

namespace LogLine

/- The number that digits give, of which there is one at least. -/
def readNumber?
    (digits : Text) :
    Option Nat :=
  if digits ≠ [] ∧ ∀ c ∈ digits, c.isDigit = true then
    some (Text.digitsValue digits)
  else
    none

/- The number that digits give, with a point or without one. -/
def readFraction?
    (text : Text) :
    Option ℚ :=
  let whole := text.beforeFirst (· == '.')
  let fraction := (text.fromFirst (· == '.')).drop 1
  if whole = [] then
    none
  else
    (readNumber? (whole ++ fraction)).map
      (fun units : Nat => (units : ℚ) / 10 ^ fraction.length)

/- An exponent, which has a sign. -/
def readPower? : Text → Option Int
  | 'e' :: '+' :: digits =>
      (readNumber? digits).map (fun n : Nat => (n : Int))
  | 'e' :: '-' :: digits =>
      (readNumber? digits).map (fun n : Nat => -(n : Int))
  | _ => none

/- The rational number that a text stands for. -/
def readDecimal?
    (text : Text) :
    Option ℚ :=
  if powerOf text = [] then
    readFraction? text
  else do
    let value ← readFraction? (mantissaOf text)
    let power ← readPower? (powerOf text)
    return value * 10 ^ power

theorem readNumber?_of_isDigit
    {digits : Text}
    (hSome : digits ≠ [])
    (hDigits : ∀ c ∈ digits, c.isDigit = true) :
    readNumber? digits = some (Text.digitsValue digits) :=
  if_pos ⟨hSome, hDigits⟩

/- A text is cut at the first character that stops. -/
theorem Text.cut_append
    {stop : Char → Bool}
    {front rest : Text}
    (hFront : ∀ c ∈ front, stop c = false)
    (hRest : ∀ c ∈ rest.head?, stop c = true) :
    beforeFirst stop (front ++ rest) = front ∧
      fromFirst stop (front ++ rest) = rest := by
  apply takeWhile_append_of_not_startsIn
  · simpa using hFront
  · rintro ⟨c, hHead, hOther⟩
    simp [hRest c hHead] at hOther

end LogLine

------------------------------------------------------------
-- Digits around a Point
------------------------------------------------------------

namespace LogLine

/- The digits in front of a point and those behind it, if any. -/
structure Pointed where
  whole : Text
  fraction : Text
  whole_ne_nil : whole ≠ []
  isDigit : ∀ c ∈ whole ++ fraction, c.isDigit = true

namespace Pointed

/- The point stands only if there are digits behind it. -/
def tail
    (n : Pointed) :
    Text :=
  if n.fraction = [] then [] else '.' :: n.fraction

def text
    (n : Pointed) :
    Text :=
  n.whole ++ n.tail

def value
    (n : Pointed) :
    ℚ :=
  Text.digitsValue (n.whole ++ n.fraction) /
    10 ^ n.fraction.length

theorem isDigit_of_mem_whole
    (n : Pointed) :
    ∀ c ∈ n.whole, c.isDigit = true :=
  (List.forall_mem_append.mp n.isDigit).1

theorem isDigit_of_mem_fraction
    (n : Pointed) :
    ∀ c ∈ n.fraction, c.isDigit = true :=
  (List.forall_mem_append.mp n.isDigit).2

theorem eq_point_of_head?_tail
    (n : Pointed) :
    ∀ c ∈ n.tail.head?, c = '.' := by
  unfold tail
  split
  · simp
  · simp

theorem drop_tail
    (n : Pointed) :
    n.tail.drop 1 = n.fraction := by
  unfold tail
  split
  case isTrue hNone => rw [hNone, List.drop_nil]
  case isFalse => rfl

/- The text is read as the number that it was written for. -/
theorem readFraction?_text
    (n : Pointed) :
    readFraction? n.text = some n.value := by
  have hCut :=
    Text.cut_append
      (fun c hMem =>
        Text.beq_eq_false_of_isDigit '.' rfl
          (n.isDigit_of_mem_whole c hMem))
      (fun c hHead =>
        beq_iff_eq.mpr (n.eq_point_of_head?_tail c hHead))
  rw [text, readFraction?, hCut.1, hCut.2]
  simp only [n.drop_tail, if_neg n.whole_ne_nil]
  rw [readNumber?_of_isDigit
    (List.append_ne_nil_of_left_ne_nil n.whole_ne_nil _)
    n.isDigit]
  rfl

/- Without the point the digits are left. -/
theorem filter_isDigit_text
    (n : Pointed) :
    n.text.filter Char.isDigit = n.whole ++ n.fraction := by
  have hTail : n.tail.filter Char.isDigit = n.fraction := by
    unfold tail
    split
    case isTrue hNone => rw [hNone, List.filter_nil]
    case isFalse =>
        rw [List.filter_cons_of_neg (by decide),
          List.filter_eq_self.mpr n.isDigit_of_mem_fraction]
  rw [text, List.filter_append, hTail,
    List.filter_eq_self.mpr n.isDigit_of_mem_whole]

/- The first run of digits stands in front of the point. -/
theorem takeWhile_isDigit_append
    (n : Pointed)
    {rest : Text}
    (hRest : ¬ Text.StartsIn Char.isDigit rest) :
    (n.text ++ rest).takeWhile Char.isDigit = n.whole := by
  rw [text, List.append_assoc]
  refine
    (Text.takeWhile_append_of_not_startsIn
      n.isDigit_of_mem_whole ?_).1
  unfold tail
  split
  case isTrue => exact hRest
  case isFalse =>
      rw [List.cons_append, Text.startsIn_cons]
      decide

theorem tail_eq
    (n : Pointed)
    (hSome : n.fraction ≠ []) :
    n.tail = '.' :: n.fraction :=
  if_neg hSome

theorem isDigit_or_eq_of_mem_text
    (n : Pointed)
    {c : Char}
    (hMem : c ∈ n.text) :
    c.isDigit = true ∨ c = '.' ∧ n.fraction ≠ [] := by
  rcases List.mem_append.mp hMem with hWhole | hTail
  · exact Or.inl (n.isDigit_of_mem_whole c hWhole)
  · by_cases hNone : n.fraction = []
    · rw [tail, if_pos hNone] at hTail
      cases hTail
    · rw [n.tail_eq hNone, List.mem_cons] at hTail
      rcases hTail with rfl | hFraction
      · exact Or.inr ⟨rfl, hNone⟩
      · exact Or.inl (n.isDigit_of_mem_fraction c hFraction)

theorem fraction_ne_nil_of_point_mem
    (n : Pointed)
    (hPoint : '.' ∈ n.text) :
    n.fraction ≠ [] := by
  rcases n.isDigit_or_eq_of_mem_text hPoint with
    hDigit | ⟨-, hSome⟩
  · exact absurd hDigit (by decide)
  · exact hSome

theorem not_mem_text
    (n : Pointed)
    {mark : Char}
    (hDigit : mark.isDigit = false)
    (hPoint : mark ≠ '.') :
    mark ∉ n.text := by
  intro hMem
  rcases n.isDigit_or_eq_of_mem_text hMem with
    hOther | ⟨hOther, -⟩
  · rw [hDigit] at hOther
    cases hOther
  · exact hPoint hOther

theorem getLast?_text
    (n : Pointed)
    (hSome : n.fraction ≠ []) :
    n.text.getLast? = n.fraction.getLast? := by
  rw [text, n.tail_eq hSome,
    List.getLast?_append_of_ne_nil _ (List.cons_ne_nil _ _),
    List.getLast?_cons_of_ne_nil hSome]

end Pointed

end LogLine

------------------------------------------------------------
-- Units of a Place
------------------------------------------------------------

namespace LogLine

namespace Text

theorem digitsValue_zeroPadded_ofNat
    (width n : Nat) :
    digitsValue ((ofNat n).zeroPadded width) = n := by
  rw [digitsValue, zeroPadded, Nat.ofDigitChars_append,
    Nat.ofDigitChars_replicate_zero, Nat.mul_zero]
  exact Nat.ofDigitChars_ten_toDigits

end Text

namespace Pointed

/- All digits of a number with so many places. -/
def unitDigits
    (places units : Nat) :
    Text :=
  (Text.ofNat units).zeroPadded (places + 1)

/- How many of them stand in front of the point. -/
def wholeLength
    (places units : Nat) :
    Nat :=
  (unitDigits places units).length - places

theorem wholeLength_add
    (places units : Nat) :
    0 < wholeLength places units ∧
      wholeLength places units + places =
        (unitDigits places units).length := by
  have hLength : places + 1 ≤ (unitDigits places units).length :=
    Text.length_zeroPadded_ge _ _
  unfold wholeLength
  omega

/- A number of units of `10 ^ -places`. -/
def ofUnits
    (places units : Nat) :
    Pointed where
  whole :=
    (unitDigits places units).take (wholeLength places units)
  fraction :=
    (unitDigits places units).drop (wholeLength places units)
  whole_ne_nil := by
    have hLength := wholeLength_add places units
    rw [← List.length_pos_iff, List.length_take]
    omega
  isDigit := by
    rw [List.take_append_drop]
    exact fun c => Text.isDigit_of_mem_zeroPadded

variable {places units : Nat}

theorem length_whole_ofUnits :
    (ofUnits places units).whole.length =
      wholeLength places units := by
  have hLength := wholeLength_add places units
  rw [ofUnits, List.length_take]
  omega

theorem length_fraction_ofUnits :
    (ofUnits places units).fraction.length = places := by
  have hLength := wholeLength_add places units
  rw [ofUnits, List.length_drop]
  omega

theorem digits_ofUnits :
    (ofUnits places units).whole ++
        (ofUnits places units).fraction =
      unitDigits places units :=
  List.take_append_drop _ _

/- It is written so with a fixed number of places. -/
theorem text_ofUnits :
    (ofUnits places units).text = withPoint places units := by
  have hLength := @length_fraction_ofUnits places units
  unfold withPoint
  simp only
  split
  case isTrue hNone =>
      have hFraction : (ofUnits places units).fraction = [] := by
        rw [← List.length_eq_zero_iff, hLength, hNone]
      have hDigits := @digits_ofUnits places units
      rw [hFraction, List.append_nil] at hDigits
      rw [text, tail, if_pos hFraction, List.append_nil]
      exact hDigits
  case isFalse hSome =>
      have hFraction : (ofUnits places units).fraction ≠ [] := by
        rw [ne_eq, ← List.length_eq_zero_iff, hLength]
        exact hSome
      rw [text, tail_eq _ hFraction]
      rfl

theorem value_ofUnits :
    (ofUnits places units).value = units / 10 ^ places := by
  rw [value, digits_ofUnits, length_fraction_ofUnits, unitDigits,
    Text.digitsValue_zeroPadded_ofNat]

end Pointed

end LogLine

------------------------------------------------------------
-- Zeros at the End
------------------------------------------------------------

namespace LogLine

namespace Pointed

/- The same without zeros at the end of the fraction. -/
def trimmed
    (n : Pointed) :
    Pointed where
  whole := n.whole
  fraction := n.fraction.rdropWhile (· == '0')
  whole_ne_nil := n.whole_ne_nil
  isDigit := by
    have hKept := List.rdropWhile_prefix (· == '0') n.fraction
    have hAll := (List.prefix_append_right_inj n.whole).mpr hKept
    exact fun c hMem => n.isDigit c (hAll.subset hMem)

theorem exists_fraction_eq
    (n : Pointed) :
    ∃ count,
      n.fraction =
        n.trimmed.fraction ++ List.replicate count '0' := by
  have hZeros :
      ∀ c ∈ n.fraction.rtakeWhile (· == '0'), c = '0' := by
    intro c hMem
    have hZero := List.mem_rtakeWhile_imp hMem
    exact eq_of_beq hZero
  refine ⟨(n.fraction.rtakeWhile (· == '0')).length, ?_⟩
  rw [← List.eq_replicate_of_mem hZeros]
  exact List.rdropWhile_append_rtakeWhile.symm

/- Zeros at the end of a fraction do not count. -/
theorem value_trimmed
    (n : Pointed) :
    n.trimmed.value = n.value := by
  rcases n.exists_fraction_eq with ⟨count, hFraction⟩
  have hDigits :
      Text.digitsValue (n.whole ++ n.fraction) =
        10 ^ count *
          Text.digitsValue (n.whole ++ n.trimmed.fraction) := by
    rw [hFraction, ← List.append_assoc, Text.digitsValue,
      Nat.ofDigitChars_append, Nat.ofDigitChars_replicate_zero]
    rfl
  have hLength :
      n.fraction.length = n.trimmed.fraction.length + count := by
    rw [hFraction, List.length_append, List.length_replicate]
  have hWhole : n.trimmed.whole = n.whole := rfl
  rw [value, value, hDigits, hLength, hWhole, pow_add]
  push_cast
  field_simp

theorem getLast?_trimmed
    (n : Pointed) :
    ∀ c ∈ n.trimmed.fraction.getLast?, c ≠ '0' := by
  intro c hLast
  rcases List.mem_getLast?_eq_getLast hLast with ⟨hSome, rfl⟩
  have hKept :=
    List.rdropWhile_last_not (· == '0') n.fraction hSome
  rw [beq_iff_eq] at hKept
  exact hKept

/- A point at the end is dropped, and a digit is not. -/
theorem dropFinal_point
    (n : Pointed) :
    Text.dropFinal '.' (n.whole ++ '.' :: n.fraction) =
      n.text := by
  unfold Text.dropFinal Text.endsIn
  by_cases hNone : n.fraction = []
  · rw [text, tail, hNone]
    simp
  · have hLast :
        (n.whole ++ '.' :: n.fraction).getLast? ≠ some '.' := by
      rw [← n.tail_eq hNone, ← text, n.getLast?_text hNone]
      intro hPoint
      have hDigit :=
        n.isDigit_of_mem_fraction '.'
          (List.mem_of_getLast? hPoint)
      exact absurd hDigit (by decide)
    rw [if_neg (by simpa using hLast), text, n.tail_eq hNone]

theorem trimFraction_text
    (n : Pointed) :
    trimFraction n.text = n.trimmed.text := by
  unfold trimFraction
  by_cases hNone : n.fraction = []
  · have hPoint : '.' ∉ n.text := fun hMem =>
      n.fraction_ne_nil_of_point_mem hMem hNone
    have hKept : n.trimmed.fraction = [] := by
      show n.fraction.rdropWhile (· == '0') = []
      rw [hNone, List.rdropWhile_nil]
    rw [if_neg hPoint, text, tail, if_pos hNone, text, tail,
      if_pos hKept]
    rfl
  · have hText : n.text = n.whole ++ '.' :: n.fraction := by
      rw [text, n.tail_eq hNone]
    rw [hText, if_pos (by simp)]
    simp only [dropZeros_append_point]
    exact n.trimmed.dropFinal_point

end Pointed

end LogLine

------------------------------------------------------------
-- Exponents
------------------------------------------------------------

namespace LogLine

/- The text has a sign and two digits, and gives the exponent. -/
theorem exists_exponentText_eq
    (exponent : Int) :
    ∃ sign digits,
      exponentText true 2 exponent = 'e' :: sign :: digits ∧
        (sign = '+' ∨ sign = '-') ∧
        2 ≤ digits.length ∧
        readPower? ('e' :: sign :: digits) = some exponent := by
  have hLength :=
    Text.length_zeroPadded_ge 2 (Text.ofNat exponent.natAbs)
  have hSome :
      (Text.ofNat exponent.natAbs).zeroPadded 2 ≠ [] := by
    rw [← List.length_pos_iff]
    omega
  have hRead :=
    readNumber?_of_isDigit hSome
      (fun c => Text.isDigit_of_mem_zeroPadded)
  rw [Text.digitsValue_zeroPadded_ofNat] at hRead
  unfold exponentText
  by_cases hNegative : exponent < 0
  · refine ⟨'-', _, ?_, Or.inr rfl, hLength, ?_⟩
    · rw [if_pos hNegative]
      rfl
    · rw [readPower?, hRead, Option.map_some, Option.some_inj]
      omega
  · refine ⟨'+', _, ?_, Or.inl rfl, hLength, ?_⟩
    · rw [if_neg hNegative]
      rfl
    · rw [readPower?, hRead, Option.map_some, Option.some_inj]
      omega

/- Without an exponent there is nothing to write in another way. -/
theorem normalizeExponent_of_not_mark
    {number : Text}
    (hNumber : ∀ c ∈ number, isExponentMark c = false) :
    normalizeExponent number = number := by
  have hNone : number.fromFirst isExponentMark = [] :=
    List.dropWhile_eq_nil_iff.mpr fun c hMem => by
      rw [hNumber c hMem]
      rfl
  rw [normalizeExponent, hNone]

/- An exponent is written in another way where it stands. -/
theorem normalizeExponent_append_cons
    {front : Text}
    (hFront : ∀ c ∈ front, isExponentMark c = false)
    (power : Text) :
    normalizeExponent (front ++ 'e' :: power) =
      front ++ 'e' ::
        if power.head? = some '-' then
          '-' :: Text.zeroPadded 2 power.tail
        else
          '+' :: (Text.dropInitial '+' power).zeroPadded 2 := by
  have hCut :
      (front ++ 'e' :: power).beforeFirst isExponentMark =
          front ∧
        (front ++ 'e' :: power).fromFirst isExponentMark =
          'e' :: power :=
    Text.cut_append hFront (by simp [isExponentMark])
  unfold normalizeExponent
  simp only [hCut.2, hCut.1]
  split
  · rfl
  · rfl

/- It gets its sign, and a second digit if it has one only. -/
theorem normalizeExponent_append
    {front : Text}
    (hFront : ∀ c ∈ front, isExponentMark c = false)
    (exponent : Int) :
    normalizeExponent (front ++ exponentText false 1 exponent) =
      front ++ exponentText true 2 exponent := by
  have hDigits :
      (Text.ofNat exponent.natAbs).zeroPadded 1 =
        Text.ofNat exponent.natAbs := by
    rw [Text.zeroPadded, Nat.sub_eq_zero_of_le,
      List.replicate_zero, List.nil_append]
    exact List.length_pos_iff.mpr Nat.toDigits_ne_nil
  have hHead :
      ∀ mark, mark.isDigit = false →
        (Text.ofNat exponent.natAbs).head? ≠ some mark := by
    intro mark hMark hFirst
    have hDigit :=
      Text.isDigit_of_mem_ofNat (List.mem_of_mem_head? hFirst)
    rw [hMark] at hDigit
    cases hDigit
  unfold exponentText
  rw [hDigits, List.cons_append,
    normalizeExponent_append_cons hFront]
  by_cases hNegative : exponent < 0
  · rw [if_pos hNegative, if_pos hNegative]
    rfl
  · rw [if_neg hNegative, if_neg hNegative,
      if_neg Bool.false_ne_true, List.nil_append,
      if_neg (hHead '-' rfl),
      Text.dropInitial_of_head?_ne (hHead '+' rfl)]
    rfl

namespace Pointed

theorem isExponentMark_eq_false
    (n : Pointed) :
    ∀ c ∈ n.text, isExponentMark c = false := by
  intro c hMem
  rw [isExponentMark, Bool.or_eq_false_iff,
    beq_eq_false_iff_ne, beq_eq_false_iff_ne]
  constructor
  · rintro rfl
    exact n.not_mem_text rfl (by decide) hMem
  · rintro rfl
    exact n.not_mem_text rfl (by decide) hMem

/- What stands in front of an exponent, and the exponent. -/
theorem cut_text_append
    (n : Pointed)
    (rest : Text)
    (hRest : ∀ c ∈ rest.head?, c = 'e') :
    mantissaOf (n.text ++ rest) = n.text ∧
      powerOf (n.text ++ rest) = rest := by
  refine
    Text.cut_append ?_ fun c hHead =>
      beq_iff_eq.mpr (hRest c hHead)
  intro c hMem
  rw [beq_eq_false_iff_ne]
  rintro rfl
  exact n.not_mem_text rfl (by decide) hMem

/- Zeros are dropped in front of an exponent too. -/
theorem dropTrailingZeros_text_append
    (n : Pointed)
    (rest : Text)
    (hRest : ∀ c ∈ rest.head?, c = 'e') :
    dropTrailingZeros (n.text ++ rest) =
      n.trimmed.text ++ rest := by
  have hCut := n.cut_text_append rest hRest
  rw [dropTrailingZeros, hCut.1, hCut.2, n.trimFraction_text]

theorem readDecimal?_text
    (n : Pointed) :
    readDecimal? n.text = some n.value := by
  have hCut := n.cut_text_append [] (by simp)
  rw [List.append_nil] at hCut
  rw [readDecimal?, if_pos hCut.2]
  exact n.readFraction?_text

theorem readDecimal?_text_append
    (n : Pointed)
    {rest : Text}
    {exponent : Int}
    (hRest : rest.head? = some 'e')
    (hPower : readPower? rest = some exponent) :
    readDecimal? (n.text ++ rest) =
      some (n.value * 10 ^ exponent) := by
  have hCut :=
    n.cut_text_append rest (by simp [hRest])
  have hSome : rest ≠ [] := by
    rintro rfl
    cases hRest
  rw [readDecimal?, hCut.1, hCut.2, if_neg hSome,
    n.readFraction?_text, hPower]
  rfl

example : readDecimal? "1.25e-03".toList = some (1 / 800) := by
  decide +kernel

end Pointed

end LogLine
