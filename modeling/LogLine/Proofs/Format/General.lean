import LogLine.Proofs.Decimal.Reading
import LogLine.Proofs.Format.Padding

/-
  General notation: whichever of the two notations it picks,
  the text stands for the number rounded to as many digits as
  were asked for.

  Key definitions include:
    * `LogLine.Binary64.value`
    * `LogLine.Spec.general`
    * `LogLine.ShowsDigits`
    * `LogLine.ShowsRounded`

  Key theorems include:
    * `LogLine.Ratio.scientificText_eq`
    * `LogLine.Ratio.general_eq`
    * `LogLine.Ratio.showsRounded_general`
    * `LogLine.general_shows_rounded_value`
-/

------------------------------------------------------------
-- Rounded Numbers in Text
------------------------------------------------------------

namespace LogLine

/-
  The digits of a number in the alternate form or not.  Digits
  count from the first one that is no zero.
-/
structure ShowsDigits
    (digits : Nat)
    (alternate : Bool)
    (mantissa : Text) : Prop where
  all_shown :
    alternate = true →
      ((mantissa.filter Char.isDigit).dropWhile
        (· == '0')).length = digits
  trimmed :
    alternate = false → '.' ∈ mantissa →
      ∀ c ∈ mantissa.getLast?, c ≠ '0' ∧ c ≠ '.'

/-
  A text for a rounded number.  It has an exponent only if the
  number is small or has more digits than are shown; otherwise
  all digits in front of the point are there.
-/
structure ShowsRounded
    (digits : Nat)
    (alternate : Bool)
    (rounded : ℚ)
    (text : Text) : Prop where
  value : readDecimal? text = some rounded
  has_power :
    'e' ∈ text ↔
      Int.log 10 rounded < -4 ∨ digits ≤ Int.log 10 rounded
  power :
    'e' ∈ text →
      ∃ sign power,
        powerOf text = 'e' :: sign :: power ∧
          (sign = '+' ∨ sign = '-') ∧
          2 ≤ power.length ∧
          readPower? (powerOf text) =
            some (Int.log 10 rounded)
  mantissa : ShowsDigits digits alternate (mantissaOf text)
  whole :
    (text.takeWhile Char.isDigit).length =
      if 'e' ∈ text then 1 else (Int.log 10 rounded).toNat + 1

end LogLine

------------------------------------------------------------
-- Digits of a Coefficient
------------------------------------------------------------

namespace LogLine

namespace Pointed

/- The number, with the zeros at its end or without them. -/
def shown
    (alternate : Bool)
    (n : Pointed) :
    Pointed :=
  if alternate then n else n.trimmed

variable (alternate : Bool)

/- Digits that a number shows are left as its text is finished. -/
theorem text_shown_append
    (n : Pointed)
    (rest : Text)
    (hRest : ∀ c ∈ rest.head?, c = 'e') :
    (if alternate then n.text ++ rest
      else dropTrailingZeros (n.text ++ rest)) =
        (n.shown alternate).text ++ rest := by
  cases alternate with
  | true => rfl
  | false => exact n.dropTrailingZeros_text_append rest hRest

theorem value_shown
    (n : Pointed) :
    (n.shown alternate).value = n.value := by
  cases alternate with
  | true => rfl
  | false => exact n.value_trimmed

theorem whole_shown
    (n : Pointed) :
    (n.shown alternate).whole = n.whole := by
  cases alternate with
  | true => rfl
  | false => rfl

variable (places : Nat)
variable {units digits : Nat}

/- The bounds of a number tell how many digits it has. -/
theorem length_ofNat_of_bounds
    (hLow : 10 ^ digits ≤ units)
    (hHigh : units < 10 ^ (digits + 1)) :
    (Text.ofNat units).length = digits + 1 := by
  have hSome : units ≠ 0 := by
    have hPos : 0 < 10 ^ digits := Nat.pow_pos (by decide)
    omega
  have hLength := decimalLength_eq_log hSome
  rw [decimalLength, if_neg hSome,
    Nat.log_eq_of_pow_le_of_lt_pow hLow hHigh] at hLength
  exact hLength

theorem showsDigits_shown
    (hLow : 10 ^ digits ≤ units)
    (hHigh : units < 10 ^ (digits + 1)) :
    ShowsDigits (digits + 1) alternate
      ((ofUnits places units).shown alternate).text := by
  have hLength := length_ofNat_of_bounds hLow hHigh
  have hSome : units ≠ 0 := by
    have hPos : 0 < 10 ^ digits := Nat.pow_pos (by decide)
    omega
  have hLead :
      ¬ Text.StartsIn (· == '0') (Text.ofNat units) := by
    rintro ⟨c, hHead, hZero⟩
    rw [eq_of_beq hZero] at hHead
    exact
      head?_toDigits_ne_zero (by decide) (by decide) hSome hHead
  constructor
  case all_shown =>
      rintro rfl
      rw [shown, if_pos rfl, filter_isDigit_text, digits_ofUnits,
        unitDigits, Text.zeroPadded,
        (Text.takeWhile_append_of_not_startsIn
          (by simp) hLead).2, hLength]
  case trimmed =>
      rintro rfl hPoint c hLast
      rw [shown, if_neg Bool.false_ne_true] at hPoint hLast
      have hFraction := fraction_ne_nil_of_point_mem _ hPoint
      rw [getLast?_text _ hFraction] at hLast
      have hDigit :=
        isDigit_of_mem_fraction _ c (List.mem_of_getLast? hLast)
      refine ⟨getLast?_trimmed _ c hLast, ?_⟩
      rintro rfl
      exact absurd hDigit (by decide)

theorem length_whole_shown
    (hLow : 10 ^ digits ≤ units)
    (hHigh : units < 10 ^ (digits + 1)) :
    ((ofUnits places units).shown alternate).whole.length =
      max places digits + 1 - places := by
  have hLength := length_ofNat_of_bounds hLow hHigh
  rw [whole_shown, length_whole_ofUnits, wholeLength, unitDigits,
    Text.zeroPadded, List.length_append, List.length_replicate,
    hLength]
  omega

end Pointed

end LogLine

------------------------------------------------------------
-- Both Notations
------------------------------------------------------------

namespace LogLine

namespace Ratio

/- The exponent stands behind the digits and their point. -/
theorem scientificText_eq
    (r : Ratio)
    (places : Nat)
    (alternate : Bool) :
    r.scientificText places alternate =
      (r.scientific places).mantissa ++
        barePoint alternate places ++
          exponentText true 2 (r.scientific places).exponent := by
  unfold scientificText
  refine normalizeExponent_append ?_ _
  intro c hMem
  rw [Scientific.mantissa, ← Pointed.text_ofUnits] at hMem
  rcases List.mem_append.mp hMem with hDigits | hPoint
  · exact Pointed.isExponentMark_eq_false _ c hDigits
  · unfold barePoint at hPoint
    split at hPoint
    · rw [List.mem_singleton.mp hPoint]
      rfl
    · cases hPoint

variable {r : Ratio}

/- The coefficient is the same in either notation. -/
theorem general_eq
    (hSome : r.num ≠ 0)
    {places precision : Nat}
    (hDigits : max precision 1 = places + 1)
    (alternate : Bool)
    {s : Scientific}
    (hRounded : r.scientific places = s) :
    r.general precision alternate =
      if -4 ≤ s.exponent ∧ s.exponent < (places + 1 : Nat) then
        ((Pointed.ofUnits (places - s.exponent).toNat
          s.coefficient).shown alternate).text
      else
        ((Pointed.ofUnits places s.coefficient).shown
            alternate).text ++
          exponentText true 2 s.exponent := by
  have hRounds := rounds_scientific hSome places
  rw [hRounded] at hRounds
  unfold general
  simp only [hDigits, if_neg hSome, Nat.add_sub_cancel, hRounded]
  by_cases hFixed :
      -4 ≤ s.exponent ∧ s.exponent < (places + 1 : Nat)
  · have hCount :
        ((places + 1 : Nat) : Int) - 1 - s.exponent =
          places - s.exponent := by
      omega
    have hNat :
        ((places - s.exponent).toNat : Int) =
          places - s.exponent :=
      Int.toNat_of_nonneg (by omega)
    have hShown :=
      Pointed.text_shown_append alternate
        (Pointed.ofUnits (places - s.exponent).toNat
          s.coefficient)
        [] (by simp)
    rw [List.append_nil, List.append_nil] at hShown
    rw [if_pos hFixed, if_pos hFixed, hCount, fixed, hNat,
      hRounds.again, ← Pointed.text_ofUnits, hShown,
      normalizeExponent_of_not_mark
        (Pointed.isExponentMark_eq_false _)]
  · have hShown :=
      Pointed.text_shown_append alternate
        (Pointed.ofUnits places s.coefficient)
        (exponentText false 1 s.exponent)
        (by simp [exponentText])
    rw [if_neg hFixed, if_neg hFixed, Scientific.text,
      Scientific.mantissa, hRounds.places_eq,
      ← Pointed.text_ofUnits, hShown,
      normalizeExponent_append
        (Pointed.isExponentMark_eq_false _)]

variable {places : Nat}
variable {s : Scientific}

/- The point stands behind as many digits as the exponent says. -/
theorem RoundsTo.showsRounded_fixed
    (hRounds : r.RoundsTo places s)
    (hFixed : -4 ≤ s.exponent ∧ s.exponent < (places + 1 : Nat))
    (alternate : Bool) :
    ShowsRounded (places + 1) alternate
      (significant (places + 1) r.value)
      ((Pointed.ofUnits (places - s.exponent).toNat
        s.coefficient).shown alternate).text := by
  have hLow := hRounds.low
  have hHigh := hRounds.high
  have hNat :
      ((places - s.exponent).toNat : Int) =
        places - s.exponent :=
    Int.toNat_of_nonneg (by omega)
  have hValue :
      (Pointed.ofUnits (places - s.exponent).toNat
        s.coefficient).value =
          significant (places + 1) r.value := by
    rw [Pointed.value_ofUnits, ← hRounds.value,
      Scientific.value, hRounds.places_eq, ← zpow_natCast, hNat,
      div_eq_mul_inv, ← zpow_neg, neg_sub]
  have hLength :=
    Pointed.length_whole_shown alternate
      (places - s.exponent).toNat hLow hHigh
  have hDigits :=
    Pointed.showsDigits_shown alternate
      (places - s.exponent).toNat hLow hHigh
  rw [← Pointed.value_shown alternate] at hValue
  generalize
    (Pointed.ofUnits (places - s.exponent).toNat
      s.coefficient).shown alternate = n
        at hValue hLength hDigits ⊢
  have hPower : 'e' ∉ n.text := n.not_mem_text rfl (by decide)
  have hCut := n.cut_text_append [] (by simp)
  have hWhole :=
    n.takeWhile_isDigit_append Text.not_startsIn_nil
  rw [List.append_nil] at hCut hWhole
  constructor
  case value => rw [n.readDecimal?_text, hValue]
  case has_power =>
      rw [hRounds.log_eq]
      exact iff_of_false hPower (by omega)
  case power => exact fun hMem => absurd hMem hPower
  case mantissa => rwa [hCut.1]
  case whole =>
      rw [hWhole, hLength, hRounds.log_eq, if_neg hPower]
      omega

/- One digit stands in front of the point, and the exponent. -/
theorem RoundsTo.showsRounded_power
    (hRounds : r.RoundsTo places s)
    (hPower :
      ¬ (-4 ≤ s.exponent ∧ s.exponent < (places + 1 : Nat)))
    (alternate : Bool) :
    ShowsRounded (places + 1) alternate
      (significant (places + 1) r.value)
      (((Pointed.ofUnits places s.coefficient).shown
          alternate).text ++
        exponentText true 2 s.exponent) := by
  have hLow := hRounds.low
  have hHigh := hRounds.high
  have hValue :
      (Pointed.ofUnits places s.coefficient).value *
          10 ^ s.exponent =
        significant (places + 1) r.value := by
    rw [Pointed.value_ofUnits, ← hRounds.value,
      Scientific.value, hRounds.places_eq,
      zpow_sub₀ (by norm_num), zpow_natCast]
    ring
  have hLength :=
    Pointed.length_whole_shown alternate places hLow hHigh
  have hDigits :=
    Pointed.showsDigits_shown alternate places hLow hHigh
  rw [← Pointed.value_shown alternate] at hValue
  generalize
    (Pointed.ofUnits places s.coefficient).shown alternate = n
      at hValue hLength hDigits ⊢
  rcases exists_exponentText_eq s.exponent with
    ⟨sign, power, hText, hSign, hTwo, hRead⟩
  rw [hText]
  have hMem : 'e' ∈ n.text ++ 'e' :: sign :: power :=
    List.mem_append_right _ List.mem_cons_self
  have hCut :=
    n.cut_text_append ('e' :: sign :: power) (by simp)
  have hOther :
      ¬ Text.StartsIn Char.isDigit ('e' :: sign :: power) := by
    rw [Text.startsIn_cons]
    decide
  have hWhole := n.takeWhile_isDigit_append hOther
  constructor
  case value =>
      rw [n.readDecimal?_text_append rfl hRead, hValue]
  case has_power =>
      rw [hRounds.log_eq]
      exact iff_of_true hMem (by omega)
  case power =>
      intro _
      rw [hCut.2, hRounds.log_eq]
      exact ⟨sign, power, rfl, hSign, hTwo, hRead⟩
  case mantissa => rwa [hCut.1]
  case whole =>
      rw [hWhole, hLength, if_pos hMem]
      omega

/- Whichever notation it is, the text shows the rounded number. -/
theorem showsRounded_general
    (hSome : r.num ≠ 0)
    (precision : Nat)
    (alternate : Bool) :
    ShowsRounded (max precision 1) alternate
      (significant (max precision 1) r.value)
      (r.general precision alternate) := by
  rcases Nat.exists_eq_add_of_le' (le_max_right precision 1) with
    ⟨places, hDigits⟩
  have hRounds := rounds_scientific hSome places
  rw [general_eq hSome hDigits alternate rfl, hDigits]
  split
  case isTrue hFixed =>
      exact hRounds.showsRounded_fixed hFixed alternate
  case isFalse hPower =>
      exact hRounds.showsRounded_power hPower alternate

end Ratio

end LogLine

------------------------------------------------------------
-- Floating-Point Numbers in General Notation
------------------------------------------------------------

namespace LogLine

namespace Binary64

/- The rational number that a finite number stands for. -/
def value
    (x : Binary64) :
    ℚ :=
  (if x.negative then -1 else 1) *
    (x.significand * 2 ^ x.unitExponent)

theorem value_magnitude
    (x : Binary64) :
    x.magnitude.value = x.significand * 2 ^ x.unitExponent := by
  rw [magnitude, Ratio.value_scaleTwo, Ratio.value_ofNat]

theorem negative_eq_false_of_value_pos
    {x : Binary64}
    (hPositive : 0 < x.value) :
    x.negative = false := by
  have hMagnitude :
      (0 : ℚ) ≤ x.significand * 2 ^ x.unitExponent :=
    mul_nonneg (Nat.cast_nonneg _) (zpow_nonneg zero_le_two _)
  rw [← Bool.not_eq_true]
  intro hNegative
  rw [value, if_pos hNegative] at hPositive
  linarith

theorem value_magnitude_of_value_pos
    {x : Binary64}
    (hPositive : 0 < x.value) :
    x.magnitude.value = x.value := by
  have hSign := negative_eq_false_of_value_pos hPositive
  rw [value_magnitude, value, hSign,
    if_neg Bool.false_ne_true, one_mul]

end Binary64

namespace Spec

/- The spec for general notation. -/
def general
    (precision : Nat)
    (alternate : Bool) :
    Spec :=
  { blank with
    alternate := alternate
    precision := some precision
    code := some 'g' }

/- Without a sign the text stands alone. -/
theorem apply_general
    {x : Binary64}
    (hFinite : x.isFinite = true)
    (hSign : x.negative = false)
    (precision : Nat)
    (alternate : Bool) :
    (general precision alternate).apply (.float x) =
      .ok (x.magnitude.general precision alternate) := by
  have hBody :
      (general precision alternate).body (.float x) =
        .ok ⟨[], x.magnitude.general precision alternate,
          true⟩ := by
    rw [body, floatBody, magnitudeText, if_pos hFinite, hSign]
    rfl
  rw [apply, hBody]
  refine congrArg Except.ok ?_
  exact (general precision alternate).pad_withoutWidth _

end Spec

/-
  A finite number above zero in general notation.  The text
  stands for exactly the number rounded to the digits asked
  for, one at least; has an exponent if the rounded number is
  below 0.0001 or does not fit into the digits; shows all the
  digits in the alternate form; and has no zeros at the end
  of a fraction, nor a point without one, otherwise.
-/
theorem general_shows_rounded_value
    {x : Binary64}
    (hFinite : x.isFinite = true)
    (hPositive : 0 < x.value)
    (precision : Nat)
    (alternate : Bool) :
    (Spec.general precision alternate).apply (.float x) =
        .ok (x.magnitude.general precision alternate) ∧
      ShowsRounded (max precision 1) alternate
        (significant (max precision 1) x.value)
        (x.magnitude.general precision alternate) := by
  have hValue := x.value_magnitude_of_value_pos hPositive
  have hSign := x.negative_eq_false_of_value_pos hPositive
  have hSome : x.magnitude.num ≠ 0 := by
    apply Ratio.num_ne_zero_of_value_pos
    rw [hValue]
    exact hPositive
  refine
    ⟨Spec.apply_general hFinite hSign precision alternate, ?_⟩
  rw [← hValue]
  exact Ratio.showsRounded_general hSome precision alternate

/- The number nearest to 9.9996. -/
def belowTen : Binary64 :=
  .ofBits 4621818892408990151

/- It is rounded up to ten, which has one digit more. -/
theorem general_shows_rounded_value_of_carry :
    belowTen.isFinite = true ∧
      0 < belowTen.value ∧
      (Spec.general 4 true).apply (.float belowTen) =
        .ok "10.00".toList ∧
      ShowsRounded 4 true (significant 4 belowTen.value)
        "10.00".toList := by
  have hFinite : belowTen.isFinite = true := by
    decide +kernel
  have hPositive : 0 < belowTen.value := by
    have hSome : belowTen.significand ≠ 0 := by
      decide +kernel
    have hSign : belowTen.negative = false := by
      decide +kernel
    rw [Binary64.value, hSign, if_neg Bool.false_ne_true, one_mul]
    exact
      mul_pos (Nat.cast_pos.mpr (Nat.pos_of_ne_zero hSome))
        (zpow_pos two_pos _)
  have hText :
      belowTen.magnitude.general 4 true = "10.00".toList := by
    decide +kernel
  have hShows :=
    general_shows_rounded_value hFinite hPositive 4 true
  rw [hText] at hShows
  exact ⟨hFinite, hPositive, hShows⟩

end LogLine
