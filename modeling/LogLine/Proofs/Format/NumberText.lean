import LogLine.Format.Apply
import LogLine.Proofs.Outcome
import LogLine.Proofs.Text.Digits
import LogLine.Proofs.Format.Grouping
import LogLine.Proofs.Format.SpecGrammar
import Mathlib.Data.List.DropRight

/-
  How the text of a number begins: behind its sign stands a
  digit, or a letter if the number is infinite or none.  The
  digits of an integer depend on its code.

  Key definitions include:
    * `LogLine.digitCodes`
    * `LogLine.radixOf`
    * `LogLine.Base.groupedDigits`

  Key theorems include:
    * `LogLine.Spec.startsIn_of_magnitudeText`
    * `LogLine.Spec.startsIn_of_grouped`
    * `LogLine.Binary64.ofInt_sign`
    * `LogLine.Base.of_ofCode?`
    * `LogLine.Base.digits_eq_map`
-/

------------------------------------------------------------
-- First Digits
------------------------------------------------------------

namespace LogLine

namespace Text

variable {inClass : Char → Bool}

/- A text of one class begins in it, unless it is empty. -/
theorem startsIn_of_forall
    {text : Text}
    (hSome : text ≠ [])
    (hClass : ∀ c ∈ text, inClass c = true) :
    StartsIn inClass text := by
  cases text with
  | nil => exact absurd rfl hSome
  | cons c rest =>
      exact startsIn_cons.mpr (hClass c List.mem_cons_self)

theorem StartsIn.ne_nil
    {text : Text}
    (hStarts : StartsIn inClass text) :
    text ≠ [] := by
  rintro rfl
  exact not_startsIn_nil hStarts

theorem StartsIn.append
    {first : Text}
    (hStarts : StartsIn inClass first)
    (second : Text) :
    StartsIn inClass (first ++ second) :=
  (startsIn_append_of_ne_nil hStarts.ne_nil second).mpr hStarts

/- A beginning that is not empty begins as the whole does. -/
theorem StartsIn.take
    {text : Text}
    (hStarts : StartsIn inClass text)
    {n : Nat}
    (hPos : 0 < n) :
    StartsIn inClass (text.take n) := by
  refine (startsIn_congr ?_).mpr hStarts
  rw [List.head?_take, if_neg (by omega)]

theorem StartsIn.ite
    {p : Prop}
    [Decidable p]
    {first second : Text}
    (hFirst : StartsIn inClass first)
    (hSecond : StartsIn inClass second) :
    StartsIn inClass (if p then first else second) := by
  split
  · exact hFirst
  · exact hSecond

/- What stops at no character of a class keeps the first one. -/
theorem StartsIn.beforeFirst
    {text : Text}
    {stop : Char → Bool}
    (hStarts : StartsIn inClass text)
    (hStop : ∀ c, inClass c = true → stop c = false) :
    StartsIn inClass (text.beforeFirst stop) := by
  cases text with
  | nil => exact absurd hStarts not_startsIn_nil
  | cons c rest =>
      have hClass := startsIn_cons.mp hStarts
      rw [Text.beforeFirst,
        List.takeWhile_cons_of_pos (by simp [hStop c hClass])]
      exact startsIn_cons.mpr hClass

/- No other character is a digit. -/
theorem beq_eq_false_of_isDigit
    (mark : Char)
    (hMark : mark.isDigit = false)
    {c : Char}
    (hDigit : c.isDigit = true) :
    (c == mark) = false := by
  rw [beq_eq_false_iff_ne]
  rintro rfl
  rw [hMark] at hDigit
  cases hDigit

theorem isDigit_of_mem_ofNat
    {n : Nat}
    {c : Char}
    (hMem : c ∈ ofNat n) :
    c.isDigit = true :=
  Nat.isDigit_of_mem_toDigits (by decide) (by decide) hMem

theorem isDigit_of_mem_zeroPadded
    {width n : Nat}
    {c : Char}
    (hMem : c ∈ (ofNat n).zeroPadded width) :
    c.isDigit = true := by
  rcases List.mem_append.mp hMem with hZero | hDigit
  · rw [(List.mem_replicate.mp hZero).2]
    rfl
  · exact isDigit_of_mem_ofNat hDigit

theorem startsIn_zeroPadded_ofNat
    (width n : Nat) :
    StartsIn Char.isDigit ((ofNat n).zeroPadded width) := by
  refine startsIn_of_forall ?_ ?_
  · unfold zeroPadded ofNat
    simp
  · exact fun c => isDigit_of_mem_zeroPadded

theorem length_zeroPadded_ge
    (width : Nat)
    (digits : Text) :
    width ≤ (digits.zeroPadded width).length := by
  rw [zeroPadded, List.length_append, List.length_replicate]
  omega

end Text

/- In front of the point stands at least one digit. -/
theorem startsIn_withPoint
    (places units : Nat) :
    Text.StartsIn Char.isDigit (withPoint places units) := by
  have hDigits :=
    Text.startsIn_zeroPadded_ofNat (places + 1) units
  have hLength :=
    Text.length_zeroPadded_ge (places + 1) (Text.ofNat units)
  unfold withPoint
  simp only
  split
  · exact hDigits
  · exact (hDigits.take (by omega)).append _

theorem Scientific.startsIn_positional
    (s : Scientific) :
    Text.StartsIn Char.isDigit s.positional := by
  unfold positional
  split
  · exact Text.startsIn_cons.mpr rfl
  · have hDigits : Text.StartsIn Char.isDigit s.digits :=
      Text.startsIn_zeroPadded_ofNat _ _
    exact ((hDigits.append _).take (Nat.succ_pos _)).append _

/- Zeros at the end are dropped up to the point. -/
theorem dropZeros_append_point
    (whole places : Text) :
    ((whole ++ '.' :: places).reverse.dropWhile
        (· == '0')).reverse =
      whole ++
        '.' :: (places.reverse.dropWhile (· == '0')).reverse := by
  rw [List.reverse_append, List.reverse_cons,
    List.append_assoc, List.dropWhile_append]
  split
  case isTrue hNone =>
    rw [List.isEmpty_iff] at hNone
    simp [hNone]
  case isFalse => simp

/- Then the point is; what stands in front of it stays. -/
theorem exists_trimFraction
    (whole places : Text) :
    ∃ rest,
      trimFraction (whole ++ '.' :: places) = whole ++ rest := by
  rw [trimFraction, if_pos (by simp)]
  simp only [dropZeros_append_point]
  unfold Text.dropFinal
  split
  · rw [List.dropLast_append_of_ne_nil (List.cons_ne_nil _ _)]
    exact ⟨_, rfl⟩
  · exact ⟨_, rfl⟩

theorem startsIn_trimFraction
    {number : Text}
    (hNumber : Text.StartsIn Char.isDigit number) :
    Text.StartsIn Char.isDigit (trimFraction number) := by
  by_cases hPoint : '.' ∈ number
  · rcases List.append_of_mem hPoint with ⟨whole, places, rfl⟩
    rcases exists_trimFraction whole places with ⟨rest, hTrim⟩
    have hWhole : whole ≠ [] := by
      rintro rfl
      rw [List.nil_append, Text.startsIn_cons] at hNumber
      exact absurd hNumber (by decide)
    rw [Text.startsIn_append_of_ne_nil hWhole] at hNumber
    rw [hTrim]
    exact hNumber.append rest
  · rw [trimFraction, if_neg hPoint]
    exact hNumber

/- An exponent stands behind the first digit. -/
theorem startsIn_dropTrailingZeros
    {number : Text}
    (hNumber : Text.StartsIn Char.isDigit number) :
    Text.StartsIn Char.isDigit (dropTrailingZeros number) := by
  have hMantissa :
      Text.StartsIn Char.isDigit (mantissaOf number) :=
    hNumber.beforeFirst fun c =>
      Text.beq_eq_false_of_isDigit 'e' rfl
  exact (startsIn_trimFraction hMantissa).append _

theorem startsIn_normalizeExponent
    {number : Text}
    (hNumber : Text.StartsIn Char.isDigit number) :
    Text.StartsIn Char.isDigit (normalizeExponent number) := by
  have hMantissa :
      Text.StartsIn Char.isDigit
        (number.beforeFirst isExponentMark) :=
    hNumber.beforeFirst fun c hDigit => by
      rw [isExponentMark,
        Text.beq_eq_false_of_isDigit 'e' rfl hDigit,
        Text.beq_eq_false_of_isDigit 'E' rfl hDigit]
      rfl
  unfold normalizeExponent
  split
  · exact hNumber
  · exact hMantissa.append _

end LogLine

------------------------------------------------------------
-- Notations
------------------------------------------------------------

namespace LogLine

namespace Ratio

theorem startsIn_fixedText
    (r : Ratio)
    (places : Nat)
    (alternate : Bool) :
    Text.StartsIn Char.isDigit
      (r.fixedText places alternate) :=
  (startsIn_withPoint places _).append _

theorem startsIn_scientificText
    (r : Ratio)
    (places : Nat)
    (alternate : Bool) :
    Text.StartsIn Char.isDigit
      (r.scientificText places alternate) := by
  unfold scientificText
  apply startsIn_normalizeExponent
  rw [List.append_assoc]
  exact (startsIn_withPoint _ _).append _

theorem startsIn_general
    (r : Ratio)
    (precision : Nat)
    (alternate : Bool) :
    Text.StartsIn Char.isDigit
      (r.general precision alternate) := by
  unfold general
  simp only
  split
  · exact
      (startsIn_withPoint _ _).ite (Text.startsIn_cons.mpr rfl)
  · refine startsIn_normalizeExponent ?_
    have hNumber {p : Prop} [Decidable p] (places : Nat)
        (rounded : Scientific) :
        Text.StartsIn Char.isDigit
          (if p then r.fixed places else rounded.text) :=
      (startsIn_withPoint _ _).ite
        ((startsIn_withPoint _ _).append _)
    exact
      (hNumber _ _).ite (startsIn_dropTrailingZeros (hNumber _ _))

end Ratio

/- A number without a sign. -/
theorem FloatLayout.startsIn_write_abs
    {layout : FloatLayout}
    (hNaN : Text.StartsIn Char.isAlphanum layout.nan)
    (x : Binary64) :
    Text.StartsIn Char.isAlphanum (layout.write x.abs) := by
  unfold write
  split
  · exact hNaN
  · split
    · exact Text.startsIn_cons.mpr rfl
    · split
      · exact
          Text.startsIn_isAlphanum (Scientific.startsIn_positional _)
      · exact
          (Text.startsIn_isAlphanum (startsIn_withPoint _ _)).append
            _

end LogLine

------------------------------------------------------------
-- Numbers under a Spec
------------------------------------------------------------

namespace LogLine

namespace Spec

variable {spec : Spec}
variable {x : Binary64}
variable {text : Text}

theorem startsIn_nonFiniteText
    (spec : Spec)
    (x : Binary64) :
    Text.StartsIn Char.isAlphanum (spec.nonFiniteText x) := by
  unfold nonFiniteText
  split
  · exact Text.startsIn_cons.mpr rfl
  · exact Text.startsIn_cons.mpr rfl

theorem startsIn_percentText
    (spec : Spec)
    (x : Binary64)
    (places : Nat) :
    Text.StartsIn Char.isAlphanum
      (spec.percentText x places) := by
  unfold percentText
  simp only
  split
  · exact
      (Text.startsIn_isAlphanum
        (Ratio.startsIn_fixedText _ _ _)).append _
  · exact Text.startsIn_cons.mpr rfl

theorem startsIn_withFraction
    {number : Text}
    (hNumber : Text.StartsIn Char.isAlphanum number) :
    Text.StartsIn Char.isAlphanum (withFraction number) := by
  unfold withFraction
  split
  · exact hNumber
  · exact hNumber.append _

theorem startsIn_of_finiteText
    (hText : spec.finiteText x = .ok text) :
    Text.StartsIn Char.isAlphanum text := by
  unfold finiteText at hText
  simp only at hText
  split at hText
  case h_1 | h_2 =>
      cases hText
      exact
        Text.startsIn_isAlphanum (Ratio.startsIn_fixedText _ _ _)
  case h_3 | h_4 =>
      cases hText
      exact
        Text.startsIn_isAlphanum
          (Ratio.startsIn_scientificText _ _ _)
  case h_5 | h_6 | h_7 =>
      cases hText
      exact
        Text.startsIn_isAlphanum (Ratio.startsIn_general _ _ _)
  case h_8 =>
      cases hText
      exact spec.startsIn_percentText x _
  case h_9 => cases hText
  case h_10 =>
      split at hText
      · cases hText
        exact
          startsIn_withFraction
            (Text.startsIn_isAlphanum
              (Ratio.startsIn_general _ _ _))
      · cases hText
        exact
          FloatLayout.startsIn_write_abs
            (Text.startsIn_cons.mpr rfl) x

theorem isAlphanum_toUpper
    {c : Char}
    (hClass : c.isAlphanum = true) :
    c.toUpper.isAlphanum = true := by
  have hAscii :
      ∀ n < 128,
        (Char.ofNat n).isAlphanum = true →
          (Char.ofNat n).toUpper.isAlphanum = true := by
    decide
  have hSmall : c.toNat < 128 := by
    change
      (decide (c.val ≥ 65 ∧ c.val ≤ 90) ||
          (decide (c.val ≥ 97) && decide (c.val ≤ 122)) ||
        (decide (c.val ≥ 48) && decide (c.val ≤ 57))) = true
      at hClass
    simp only [Bool.or_eq_true, Bool.and_eq_true,
      decide_eq_true_eq, ge_iff_le, UInt32.le_iff_toNat_le]
      at hClass
    change
      ((65 ≤ c.toNat ∧ c.toNat ≤ 90) ∨
          (97 ≤ c.toNat ∧ c.toNat ≤ 122)) ∨
        (48 ≤ c.toNat ∧ c.toNat ≤ 57) at hClass
    omega
  rw [← Char.ofNat_toNat c] at hClass ⊢
  exact hAscii c.toNat hSmall hClass

theorem startsIn_upperAscii
    {number : Text}
    (hNumber : Text.StartsIn Char.isAlphanum number) :
    Text.StartsIn Char.isAlphanum number.upperAscii := by
  rcases hNumber with ⟨c, hHead, hClass⟩
  refine ⟨c.toUpper, ?_, isAlphanum_toUpper hClass⟩
  rw [Text.upperAscii, List.head?_map, hHead]
  rfl

theorem startsIn_of_magnitudeText
    (hText : spec.magnitudeText x = .ok text) :
    Text.StartsIn Char.isAlphanum text := by
  have hNumber :
      ∃ number,
        Text.StartsIn Char.isAlphanum number ∧
        text =
          if spec.upperCode then number.upperAscii else number := by
    unfold magnitudeText at hText
    simp only at hText
    split at hText
    · rw [bind_eq_ok_iff] at hText
      rcases hText with ⟨number, hNumber, hCase⟩
      cases hCase
      exact ⟨number, startsIn_of_finiteText hNumber, rfl⟩
    · cases hText
      exact ⟨_, spec.startsIn_nonFiniteText x, rfl⟩
  rcases hNumber with ⟨number, hStarts, rfl⟩
  split
  · exact startsIn_upperAscii hStarts
  · exact hStarts

end Spec

end LogLine

------------------------------------------------------------
-- Grouped Numbers
------------------------------------------------------------

namespace LogLine

theorem head?_groupWhole
    (separator : Char)
    (number : Text) :
    (groupWhole separator number).head? = number.head? := by
  rw [groupWhole, List.head?_append, head?_groupDigits,
    ← List.head?_append, List.takeWhile_append_dropWhile]

theorem Spec.startsIn_of_grouped
    {inClass : Char → Bool}
    {spec : Spec}
    {number text : Text}
    (hNumber : Text.StartsIn inClass number)
    (hText : spec.grouped number = .ok text) :
    Text.StartsIn inClass text := by
  unfold grouped at hText
  split at hText
  · cases hText
    exact hNumber
  · split at hText
    · cases hText
    · cases hText
      exact
        (Text.startsIn_congr (head?_groupWhole _ number)).mpr
          hNumber

end LogLine

------------------------------------------------------------
-- Integers as Floating-Point Numbers
------------------------------------------------------------

namespace LogLine

namespace Binary64

theorem pack_sign
    (negative : Bool)
    (significand : Nat)
    (unitExponent : Int) :
    (pack negative significand unitExponent).negative =
        negative ∧
      (pack negative significand unitExponent).isNaN = false := by
  unfold pack
  simp only
  split
  · exact ⟨rfl, rfl⟩
  · generalize (unitExponent + 1075).toNat + _ = exponent
    split
    · exact ⟨rfl, rfl⟩
    · rename_i hExponent
      have hSmall : exponent % 2048 ≠ 2047 := by omega
      refine ⟨rfl, ?_⟩
      simp [isNaN, Fin.ofNat, hSmall]

/- Rounding to the nearest number keeps the sign. -/
theorem ofRatio_sign
    (negative : Bool)
    (r : Ratio) :
    (ofRatio negative r).negative = negative ∧
      (ofRatio negative r).isNaN = false := by
  unfold ofRatio
  split
  · exact ⟨rfl, rfl⟩
  · exact pack_sign negative _ _

theorem ofInt_sign
    (n : Int) :
    (ofInt n).negative = decide (n < 0) ∧
      (ofInt n).isNaN = false :=
  ofRatio_sign _ _

end Binary64

end LogLine

------------------------------------------------------------
-- Integers by Their Digits
------------------------------------------------------------

namespace LogLine

/- The codes under which an integer is written by its digits. -/
def digitCodes : List Char :=
  ['d', 'n', 'b', 'o', 'x', 'X']

/- The base of the digits that a code asks for. -/
def radixOf : Char → Nat
  | 'b' => 2
  | 'o' => 8
  | 'x' => 16
  | 'X' => 16
  | _ => 10

/- What marks the base of a code; decimal digits have no mark. -/
def markerOf : Char → Text
  | 'b' => ['0', 'b']
  | 'o' => ['0', 'o']
  | 'x' => ['0', 'x']
  | 'X' => ['0', 'X']
  | _ => []

theorem Base.of_ofCode?
    {code : Char}
    {base : Base}
    (hBase : ofCode? code = some base) :
    code ∈ digitCodes ∧
      base.radix = radixOf code ∧
      base.marker = markerOf code ∧
      (base.upper = true ↔ code = 'X') := by
  unfold ofCode? at hBase
  split at hBase
  case h_7 => cases hBase
  all_goals cases hBase
  all_goals exact ⟨by decide, rfl, rfl, by decide⟩

theorem one_lt_radixOf
    (code : Char) :
    1 < radixOf code := by
  unfold radixOf
  split
  all_goals decide

/- The letters among digits are large under the code `X`. -/
def inCaseOf
    (code c : Char) :
    Char :=
  if code = 'X' then c.toUpper else c

theorem isAlphanum_inCaseOf_digitChar :
    ∀ code ∈ digitCodes, ∀ d < radixOf code,
      (inCaseOf code (Nat.digitChar d)).isAlphanum = true := by
  decide

namespace Base

variable {code : Char}
variable {base : Base}

theorem digits_eq_map
    (hBase : ofCode? code = some base)
    (n : Nat) :
    base.digits n =
      (Nat.toDigits (radixOf code) n).map (inCaseOf code) := by
  rcases of_ofCode? hBase with ⟨-, hRadix, -, hUpper⟩
  unfold digits Text.upperAscii
  by_cases hLarge : code = 'X'
  · have hSame : inCaseOf code = Char.toUpper :=
      funext fun c => if_pos hLarge
    simp [hUpper.mpr hLarge, hRadix, hSame]
  · have hSame : inCaseOf code = id :=
      funext fun c => if_neg hLarge
    simp [mt hUpper.mp hLarge, hRadix, hSame]

theorem digits_ne_nil
    (hBase : ofCode? code = some base)
    (n : Nat) :
    base.digits n ≠ [] := by
  rw [digits_eq_map hBase]
  exact mt List.map_eq_nil_iff.mp Nat.toDigits_ne_nil

theorem isAlphanum_of_mem_digits
    (hBase : ofCode? code = some base)
    {n : Nat}
    {c : Char}
    (hMem : c ∈ base.digits n) :
    c.isAlphanum = true := by
  rcases of_ofCode? hBase with ⟨hCode, -⟩
  rw [digits_eq_map hBase] at hMem
  rcases List.mem_map.mp hMem with ⟨digit, hDigit, rfl⟩
  rcases
    exists_digitChar_of_mem_toDigits (one_lt_radixOf code)
      hDigit with
    ⟨d, hSmall, rfl⟩
  exact isAlphanum_inCaseOf_digitChar code hCode d hSmall

theorem startsIn_digits
    (hBase : ofCode? code = some base)
    (n : Nat) :
    Text.StartsIn Char.isAlphanum (base.digits n) :=
  Text.startsIn_of_forall (digits_ne_nil hBase n) fun _ hMem =>
    isAlphanum_of_mem_digits hBase hMem

end Base

/-
  The digits of a number, in groups if that is asked for and
  the base allows it; `code` is named in a refusal.
-/
def Base.groupedDigits
    (base : Base)
    (grouping : Option Char)
    (code : Char)
    (n : Nat) :
    Except FormatError Text :=
  match grouping with
  | none => .ok (base.digits n)
  | some separator =>
      match base.groupings.lookup separator with
      | some size =>
          .ok (groupDigits separator size (base.digits n))
      | none => .error (.groupingWithCode separator code)

theorem Base.startsIn_of_groupedDigits
    {code : Char}
    {base : Base}
    (hBase : ofCode? code = some base)
    {grouping : Option Char}
    {n : Nat}
    {digits : Text}
    (hDigits : base.groupedDigits grouping code n = .ok digits) :
    Text.StartsIn Char.isAlphanum digits := by
  have hStart := startsIn_digits hBase n
  unfold groupedDigits at hDigits
  split at hDigits
  · cases hDigits
    exact hStart
  · split at hDigits
    · cases hDigits
      exact
        (Text.startsIn_congr (head?_groupDigits _ _ _)).mpr hStart
    · cases hDigits

theorem Spec.digitsBody_eq_map
    (spec : Spec)
    (code : Char)
    (base : Base)
    (n : Int64) :
    spec.digitsBody code base n =
      (base.groupedDigits spec.grouping code
          n.toInt.natAbs).map fun digits =>
        { lead :=
            spec.signText (n.toInt < 0) ++
              (if spec.alternate then base.marker else [])
          text := digits
          numeric := true } := by
  unfold digitsBody Base.groupedDigits
  cases spec.grouping with
  | none => rfl
  | some separator =>
      cases hSize : base.groupings.lookup separator with
      | none => simp [hSize]; rfl
      | some size => simp [hSize]; rfl

end LogLine
