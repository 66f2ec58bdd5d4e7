import LogLine.Decimal.Notation
import Mathlib.Algebra.Order.Floor.Semifield
import Mathlib.Data.Int.Log
import Mathlib.Data.Rat.Floor
import Mathlib.Tactic.Linarith
import Mathlib.Tactic.Ring

/-
  Fractions as rational numbers, and rounding these to a
  number of significant decimal digits.

  Key definitions include:
    * `LogLine.Ratio.value`
    * `LogLine.roundEven`
    * `LogLine.significant`
    * `LogLine.Scientific.value`

  Key theorems include:
    * `LogLine.abs_sub_roundEven_le`
    * `LogLine.even_roundEven`
    * `LogLine.roundEven_eq`
    * `LogLine.Ratio.round_eq_roundEven`
    * `LogLine.Ratio.decimalExponent_eq_log`
    * `LogLine.Ratio.rounds_scientific`
-/

------------------------------------------------------------
-- Values of Fractions
------------------------------------------------------------

namespace LogLine

namespace Ratio

/- The rational number that a fraction stands for. -/
def value
    (r : Ratio) :
    ℚ :=
  r.num / r.den

variable {r : Ratio}

theorem den_ne_zero
    (r : Ratio) :
    (r.den : ℚ) ≠ 0 :=
  Nat.cast_ne_zero.mpr r.den_pos.ne'

theorem value_pos
    (hSome : r.num ≠ 0) :
    0 < r.value :=
  div_pos (Nat.cast_pos.mpr (Nat.pos_of_ne_zero hSome))
    (Nat.cast_pos.mpr r.den_pos)

theorem num_ne_zero_of_value_pos
    (hPos : 0 < r.value) :
    r.num ≠ 0 := by
  intro hNone
  rw [value, hNone, Nat.cast_zero, zero_div] at hPos
  exact lt_irrefl 0 hPos

theorem value_ofNat
    (n : Nat) :
    (ofNat n).value = n := by
  rw [value, ofNat, Nat.cast_one, div_one]

theorem value_times
    (r : Ratio)
    (n : Nat) :
    (r.times n).value = r.value * n := by
  rw [value, times, Nat.cast_mul, value, mul_div_right_comm]

theorem value_dividedBy
    (r : Ratio)
    (n : Nat)
    (hPos : 0 < n) :
    (r.dividedBy n hPos).value = r.value / n := by
  rw [value, dividedBy, Nat.cast_mul, value,
    div_mul_eq_div_div]

theorem value_scale
    {base : Nat}
    (hBase : 0 < base)
    (r : Ratio)
    (power : Int) :
    (r.scale base hBase power).value =
      r.value * (base : ℚ) ^ power := by
  unfold scale
  split
  case isTrue hPower =>
      rw [value_times, Nat.pow_eq, Nat.cast_pow,
        ← zpow_natCast, Int.toNat_of_nonneg hPower]
  case isFalse hPower =>
      rw [value_dividedBy, Nat.pow_eq, Nat.cast_pow,
        ← zpow_natCast, Int.toNat_of_nonneg (by omega),
        zpow_neg, div_inv_eq_mul]

theorem value_scaleTen
    (r : Ratio)
    (power : Int) :
    (r.scaleTen power).value = r.value * 10 ^ power :=
  r.value_scale _ power

theorem value_scaleTwo
    (r : Ratio)
    (power : Int) :
    (r.scaleTwo power).value = r.value * 2 ^ power :=
  r.value_scale _ power

end Ratio

end LogLine

------------------------------------------------------------
-- Rounding to Integers
------------------------------------------------------------

namespace LogLine

/-
  The nearest integer; of two equally near ones, the even
  one.
-/
def roundEven
    (q : ℚ) :
    Int :=
  if q - ⌊q⌋ < 1 / 2 then
    ⌊q⌋
  else if 1 / 2 < q - ⌊q⌋ then
    ⌊q⌋ + 1
  else
    ⌊q⌋ + ⌊q⌋ % 2

theorem abs_sub_roundEven_le
    (q : ℚ) :
    |q - roundEven q| ≤ 1 / 2 := by
  have hLow := Int.floor_le q
  have hHigh := Int.lt_floor_add_one q
  rw [abs_le]
  unfold roundEven
  split
  case isTrue hBelow => constructor <;> linarith
  case isFalse hBelow =>
      split
      case isTrue hAbove =>
          push_cast
          constructor <;> linarith
      case isFalse hAbove =>
          rcases Int.emod_two_eq_zero_or_one ⌊q⌋ with
            hEven | hOdd
          · rw [hEven, add_zero]
            constructor <;> linarith
          · rw [hOdd]
            push_cast
            constructor <;> linarith

theorem even_roundEven
    {q : ℚ}
    (hTie : |q - roundEven q| = 1 / 2) :
    Even (roundEven q) := by
  have hLow := Int.floor_le q
  have hHigh := Int.lt_floor_add_one q
  unfold roundEven at hTie ⊢
  split at hTie
  case isTrue hBelow =>
      rw [abs_of_nonneg (by linarith)] at hTie
      linarith
  case isFalse hBelow =>
      rw [if_neg hBelow]
      split at hTie
      case isTrue hAbove =>
          push_cast at hTie
          rw [abs_of_nonpos (by linarith)] at hTie
          linarith
      case isFalse hAbove =>
          rw [if_neg hAbove, Int.even_iff]
          omega

example : roundEven (5 / 2) = 2 := by
  decide +kernel

/- No other integer is as near, and even if it is a tie. -/
theorem roundEven_eq
    {q : ℚ}
    {n : Int}
    (hNear : |q - n| ≤ 1 / 2)
    (hTie : |q - n| = 1 / 2 → Even n) :
    roundEven q = n := by
  have hOwn := abs_sub_roundEven_le q
  have hEven := @even_roundEven q
  generalize roundEven q = m at hOwn hEven ⊢
  by_contra hOther
  have hApart : (1 : ℚ) ≤ |(m : ℚ) - n| := by
    have hInt := Int.one_le_abs (sub_ne_zero.mpr hOther)
    exact_mod_cast hInt
  have hBetween : |(m : ℚ) - n| ≤ |q - m| + |q - n| := by
    rw [abs_sub_comm q m]
    exact abs_sub_le (m : ℚ) q n
  have hFirst : Even m := hEven (by linarith)
  have hSecond : Even n := hTie (by linarith)
  have hClose : |m - n| ≤ 1 := by
    have hRat : |(m : ℚ) - n| ≤ 1 := by linarith
    exact_mod_cast hRat
  rcases abs_le.mp hClose with ⟨hLow, hHigh⟩
  rcases hFirst with ⟨k, rfl⟩
  rcases hSecond with ⟨l, rfl⟩
  omega

theorem le_roundEven
    {q : ℚ}
    {n : Int}
    (hLow : (n : ℚ) ≤ q) :
    n ≤ roundEven q := by
  have hNear := abs_le.mp (abs_sub_roundEven_le q)
  have hLess : ((n - 1 : Int) : ℚ) < roundEven q := by
    push_cast
    linarith
  have hInt : n - 1 < roundEven q := by exact_mod_cast hLess
  omega

theorem roundEven_le
    {q : ℚ}
    {n : Int}
    (hHigh : q ≤ n) :
    roundEven q ≤ n := by
  have hNear := abs_le.mp (abs_sub_roundEven_le q)
  have hLess : (roundEven q : ℚ) < (n + 1 : Int) := by
    push_cast
    linarith
  have hInt : roundEven q < n + 1 := by exact_mod_cast hLess
  omega

theorem Ratio.floor_value
    (r : Ratio) :
    ⌊r.value⌋ = ((r.num / r.den : Nat) : Int) :=
  Rat.floor_natCast_div_natCast r.num r.den

theorem Ratio.value_sub_floor
    (r : Ratio) :
    r.value - ⌊r.value⌋ =
      ((r.num % r.den : Nat) : ℚ) / r.den := by
  have hDivision :
      ((r.den * (r.num / r.den) + r.num % r.den : Nat) : ℚ) =
        r.num := by
    rw [Nat.div_add_mod]
  push_cast at hDivision
  rw [floor_value, Int.cast_natCast, eq_div_iff r.den_ne_zero,
    sub_mul, value, div_mul_cancel₀ _ r.den_ne_zero]
  linarith

/- The remainder of the division tells which integer is near. -/
theorem Ratio.round_eq_roundEven
    (r : Ratio) :
    (r.round : Int) = roundEven r.value := by
  have hDen : (0 : ℚ) < r.den := Nat.cast_pos.mpr r.den_pos
  have hBelow :
      r.value - ⌊r.value⌋ < 1 / 2 ↔
        2 * (r.num % r.den) < r.den := by
    rw [value_sub_floor, div_lt_div_iff₀ hDen two_pos, one_mul,
      mul_comm]
    exact_mod_cast Iff.rfl
  have hAbove :
      1 / 2 < r.value - ⌊r.value⌋ ↔
        r.den < 2 * (r.num % r.den) := by
    rw [value_sub_floor, div_lt_div_iff₀ two_pos hDen, one_mul,
      mul_comm]
    exact_mod_cast Iff.rfl
  unfold round roundEven
  simp only [hBelow, hAbove]
  rw [floor_value]
  split
  · rfl
  · split
    · rfl
    · push_cast
      rfl

end LogLine

------------------------------------------------------------
-- Orders of Magnitude
------------------------------------------------------------

namespace LogLine

theorem decimalLength_eq_log
    {n : Nat}
    (hSome : n ≠ 0) :
    decimalLength n = Nat.log 10 n + 1 := by
  have hLength (k : Nat) (hPos : 0 < k) :
      (Nat.toDigits 10 n).length ≤ k ↔ n < 10 ^ k :=
    Nat.length_toDigits_le_iff (by decide) hPos
  rw [decimalLength, if_neg hSome]
  apply le_antisymm
  · rw [hLength _ (Nat.succ_pos _)]
    exact Nat.lt_pow_succ_log_self (by decide) n
  · apply Nat.log_lt_of_lt_pow hSome
    rw [← hLength _ Nat.length_toDigits_pos]

theorem decimalLength_eq_clog
    (n : Nat) :
    decimalLength n = Nat.clog 10 (n + 1) := by
  by_cases hNone : n = 0
  · subst hNone
    rw [Nat.clog_one_right]
    rfl
  · have hLength (k : Nat) (hPos : 0 < k) :
        (Nat.toDigits 10 n).length ≤ k ↔ n < 10 ^ k :=
      Nat.length_toDigits_le_iff (by decide) hPos
    have hPow (k : Nat) :
        Nat.clog 10 (n + 1) ≤ k ↔ n < 10 ^ k :=
      Nat.clog_le_iff_le_pow (by decide)
    have hPos : 0 < Nat.clog 10 (n + 1) :=
      Nat.clog_pos (by decide) (by omega)
    rw [decimalLength, if_neg hNone]
    apply le_antisymm
    · rw [hLength _ hPos, ← hPow]
    · rw [hPow, ← hLength _ Nat.length_toDigits_pos]

/- The order of magnitude is that of the rational number. -/
theorem Ratio.decimalExponent_eq_log
    {r : Ratio}
    (hSome : r.num ≠ 0) :
    r.decimalExponent = Int.log 10 r.value := by
  have hDen : (0 : ℚ) < r.den := Nat.cast_pos.mpr r.den_pos
  have hPos : 0 < r.num := Nat.pos_of_ne_zero hSome
  have hNum : (0 : ℚ) < r.num := Nat.cast_pos.mpr hPos
  unfold decimalExponent
  split
  case isTrue hLarge =>
      have hQuotient : r.num / r.den ≠ 0 :=
        (Nat.div_pos hLarge r.den_pos).ne'
      have hOne : 1 ≤ r.value := by
        rw [value, le_div_iff₀ hDen, one_mul]
        exact_mod_cast hLarge
      rw [Int.log_of_one_le_right 10 hOne, value,
        Nat.floor_div_eq_div, decimalLength_eq_log hQuotient]
      push_cast
      ring
  case isFalse hSmall =>
      have hOne : r.value ≤ 1 := by
        rw [value, div_le_one hDen]
        exact_mod_cast (not_le.mp hSmall).le
      have hCeil :
          ⌈r.value⁻¹⌉₊ = (r.den - 1) / r.num + 1 := by
        have hRemainder := Nat.mod_lt (r.den - 1) hPos
        have hDivision := Nat.div_add_mod' (r.den - 1) r.num
        rw [value, inv_div, Nat.ceil_eq_iff (Nat.succ_ne_zero _),
          Nat.succ_sub_one, lt_div_iff₀ hNum, div_le_iff₀ hNum]
        have hLow : (r.den - 1) / r.num * r.num < r.den := by
          omega
        have hHigh :
            r.den ≤ ((r.den - 1) / r.num).succ * r.num := by
          rw [Nat.succ_mul]
          omega
        exact ⟨by exact_mod_cast hLow, by exact_mod_cast hHigh⟩
      rw [Int.log_of_right_le_one 10 hOne, hCeil,
        decimalLength_eq_clog]

theorem ten_zpow_pos
    (power : Int) :
    (0 : ℚ) < 10 ^ power :=
  zpow_pos (by norm_num) power

/- The order of magnitude is where a number is bounded. -/
theorem log_eq_of_bounds
    {q : ℚ}
    {exponent : Int}
    (hLow : 10 ^ exponent ≤ q)
    (hHigh : q < 10 ^ (exponent + 1)) :
    Int.log 10 q = exponent := by
  have hPos : 0 < q := lt_of_lt_of_le (ten_zpow_pos _) hLow
  have hFrom :=
    (Int.zpow_le_iff_le_log (b := 10) (by decide) hPos).mp
      (by exact_mod_cast hLow)
  have hBelow :=
    (Int.lt_zpow_iff_log_lt (b := 10) (by decide) hPos).mp
      (by exact_mod_cast hHigh)
  omega

end LogLine

------------------------------------------------------------
-- Significant Digits
------------------------------------------------------------

namespace LogLine

/- The power of ten that brings these digits before the point. -/
def digitShift
    (digits : Nat)
    (q : ℚ) :
    Int :=
  digits - 1 - Int.log 10 q

/-
  The number rounded to significant digits, half to even: to
  a multiple of what the last of these digits counts.
-/
def significant
    (digits : Nat)
    (q : ℚ) :
    ℚ :=
  roundEven (q * 10 ^ digitShift digits q) /
    10 ^ digitShift digits q

/- The number that a coefficient and an exponent stand for. -/
def Scientific.value
    (s : Scientific) :
    ℚ :=
  s.coefficient * 10 ^ (s.exponent - s.places)

/- Then as many digits stand before the point. -/
theorem digitShift_bounds
    {q : ℚ}
    (hPos : 0 < q)
    (places : Nat) :
    (10 : ℚ) ^ places ≤ q * 10 ^ digitShift (places + 1) q ∧
      q * 10 ^ digitShift (places + 1) q <
        10 ^ (places + 1) := by
  have hLow : (10 : ℚ) ^ Int.log 10 q ≤ q := by
    exact_mod_cast
      Int.zpow_log_le_self (b := 10) (by decide) hPos
  have hHigh : q < (10 : ℚ) ^ (Int.log 10 q + 1) := by
    exact_mod_cast
      Int.lt_zpow_succ_log_self (b := 10) (by decide) q
  have hShift := ten_zpow_pos (digitShift (places + 1) q)
  have hFrom :
      Int.log 10 q + digitShift (places + 1) q = places := by
    rw [digitShift]
    push_cast
    ring
  constructor
  · calc
      (10 : ℚ) ^ places
          = 10 ^ Int.log 10 q *
              10 ^ digitShift (places + 1) q := by
            rw [← zpow_add₀ (by norm_num), hFrom, zpow_natCast]
      _ ≤ q * 10 ^ digitShift (places + 1) q := by gcongr
  · calc
      q * 10 ^ digitShift (places + 1) q
          < 10 ^ (Int.log 10 q + 1) *
              10 ^ digitShift (places + 1) q := by gcongr
      _ = 10 ^ (places + 1) := by
            rw [← zpow_add₀ (by norm_num), add_right_comm,
              hFrom, ← zpow_natCast, Nat.cast_succ]

/-
  What a fraction is rounded to.  The rounded number may be
  of a higher order of magnitude than the fraction, and then
  rounding the fraction to the same places gives it again.
-/
structure Ratio.RoundsTo
    (r : Ratio)
    (places : Nat)
    (s : Scientific) : Prop where
  places_eq : s.places = places
  low : 10 ^ places ≤ s.coefficient
  high : s.coefficient < 10 ^ (places + 1)
  value : s.value = significant (places + 1) r.value
  again :
    (r.scaleTen (places - s.exponent)).round = s.coefficient

namespace Ratio

variable {r : Ratio}

/- The shifted fraction is rounded as the rational number is. -/
theorem round_scaleTen_digitShift
    (r : Ratio)
    (digits : Nat) :
    ((r.scaleTen (digitShift digits r.value)).round : ℚ) *
        10 ^ (-digitShift digits r.value) =
      significant digits r.value := by
  rw [significant, ← value_scaleTen, ← round_eq_roundEven,
    Int.cast_natCast, zpow_neg, div_eq_mul_inv]

theorem round_scaleTen_bounds
    (hSome : r.num ≠ 0)
    (places : Nat) :
    10 ^ places ≤
        (r.scaleTen (digitShift (places + 1) r.value)).round ∧
      (r.scaleTen (digitShift (places + 1) r.value)).round ≤
        10 ^ (places + 1) := by
  have hBounds := digitShift_bounds (value_pos hSome) places
  rw [← value_scaleTen] at hBounds
  have hLow :=
    le_roundEven (n := ((10 ^ places : Nat) : Int))
      (by exact_mod_cast hBounds.1)
  have hHigh :=
    roundEven_le (n := ((10 ^ (places + 1) : Nat) : Int))
      (by exact_mod_cast hBounds.2.le)
  rw [← round_eq_roundEven] at hLow hHigh
  exact ⟨by exact_mod_cast hLow, by exact_mod_cast hHigh⟩

/-
  A fraction that is rounded up to a power of ten is at most
  half a unit off, and less than half of one ten times that.
-/
theorem round_scaleTen_of_carry
    {power : Int}
    {places : Nat}
    (hCarry : (r.scaleTen power).round = 10 ^ (places + 1)) :
    (r.scaleTen (power - 1)).round = 10 ^ places := by
  have hNear := abs_sub_roundEven_le (r.scaleTen power).value
  rw [← round_eq_roundEven, hCarry] at hNear
  have hShift :
      (r.scaleTen (power - 1)).value =
        (r.scaleTen power).value / 10 := by
    rw [value_scaleTen, value_scaleTen,
      zpow_sub_one₀ (by norm_num), div_eq_mul_inv, mul_assoc]
  have hTenth :
      |(r.scaleTen (power - 1)).value -
        ((10 ^ places : Nat) : Int)| ≤ 1 / 20 := by
    rw [hShift]
    push_cast at hNear ⊢
    rw [pow_succ] at hNear
    rw [abs_le] at hNear ⊢
    constructor <;> linarith
  have hInt :
      ((r.scaleTen (power - 1)).round : Int) =
        ((10 ^ places : Nat) : Int) := by
    rw [round_eq_roundEven]
    apply roundEven_eq
    · linarith
    · intro hTie
      linarith
  exact_mod_cast hInt

theorem rounds_scientific
    (hSome : r.num ≠ 0)
    (places : Nat) :
    r.RoundsTo places (r.scientific places) := by
  have hShift :
      (places : Int) - r.decimalExponent =
        digitShift (places + 1) r.value := by
    rw [decimalExponent_eq_log hSome, digitShift]
    push_cast
    ring
  have hBack :
      r.decimalExponent - places =
        -digitShift (places + 1) r.value := by
    omega
  have hValue := r.round_scaleTen_digitShift (places + 1)
  rcases round_scaleTen_bounds hSome places with ⟨hLow, hHigh⟩
  unfold scientific
  rw [if_neg hSome]
  simp only [hShift, Nat.pow_eq]
  generalize hRound :
    (r.scaleTen (digitShift (places + 1) r.value)).round = n
      at hValue hLow hHigh ⊢
  split
  case isTrue hCarry =>
      subst hCarry
      constructor
      case places_eq => rfl
      case low => exact le_rfl
      case high => exact Nat.pow_lt_pow_succ (by decide)
      case value =>
          rw [← hValue, Scientific.value]
          simp only [add_sub_right_comm, hBack]
          rw [zpow_add_one₀ (by norm_num)]
          push_cast
          ring
      case again =>
          simp only [← sub_sub, hShift]
          exact round_scaleTen_of_carry hRound
  case isFalse hKept =>
      constructor
      case places_eq => rfl
      case low => exact hLow
      case high => exact lt_of_le_of_ne hHigh hKept
      case value =>
          rw [← hValue, Scientific.value]
          simp only [hBack]
      case again =>
          simp only [hShift]
          exact hRound

/- The exponent is the order of magnitude after rounding. -/
theorem RoundsTo.log_eq
    {places : Nat}
    {s : Scientific}
    (hRounds : r.RoundsTo places s) :
    Int.log 10 (significant (places + 1) r.value) =
      s.exponent := by
  have hLow : (10 : ℚ) ^ places ≤ s.coefficient := by
    exact_mod_cast hRounds.low
  have hHigh : (s.coefficient : ℚ) < 10 ^ (places + 1) := by
    exact_mod_cast hRounds.high
  have hUnit := ten_zpow_pos (s.exponent - places)
  rw [← hRounds.value, Scientific.value, hRounds.places_eq]
  apply log_eq_of_bounds
  · calc
      (10 : ℚ) ^ s.exponent
          = 10 ^ places * 10 ^ (s.exponent - places) := by
            rw [← zpow_natCast, ← zpow_add₀ (by norm_num),
              add_sub_cancel]
      _ ≤ s.coefficient * 10 ^ (s.exponent - places) := by
            gcongr
  · calc
      s.coefficient * (10 : ℚ) ^ (s.exponent - places)
          < 10 ^ (places + 1) *
              10 ^ (s.exponent - places) := by gcongr
      _ = 10 ^ (s.exponent + 1) := by
            rw [← zpow_natCast, ← zpow_add₀ (by norm_num)]
            push_cast
            ring_nf

end Ratio

end LogLine
