import LogLine.Text
import LogLine.Decimal.Binary64

/-
  Decimal text of fractions and of floating-point numbers.

  Key definitions include:
    * `LogLine.withPoint`
    * `LogLine.Ratio.fixed`
    * `LogLine.Scientific`
    * `LogLine.Ratio.scientific`
    * `LogLine.Binary64.shortest`
    * `LogLine.FloatLayout`
    * `LogLine.FloatLayout.write`

  Key theorems include:
    * `LogLine.FloatLayout.write_eq_append_write_abs`

  Fixed places and significant digits are taken from the
  exact value, rounded half to even.  The shortest text has
  the fewest digits that read back as the same number, and of
  those the nearest one; a tie goes up.
-/

------------------------------------------------------------
-- Fixed Places
------------------------------------------------------------

namespace LogLine

/-
  A number of units of `10 ^ -places` in decimal.  Without
  places there is no point.
-/
def withPoint
    (places : Nat)
    (units : Nat) :
    Text :=
  let digits := (Text.ofNat units).zeroPadded (places + 1)
  let whole := digits.length - places
  if places = 0 then
    digits
  else
    digits.take whole ++ '.' :: digits.drop whole

/- The fraction rounded to a number of places. -/
def Ratio.fixed
    (r : Ratio)
    (places : Nat) :
    Text :=
  withPoint places (r.scaleTen places).round

end LogLine

------------------------------------------------------------
-- Significant Digits
------------------------------------------------------------

namespace LogLine

/-
  The value `coefficient * 10 ^ (exponent - places)`, where
  the coefficient of a value other than zero has
  `places + 1` digits.
-/
structure Scientific where
  coefficient : Nat
  places : Nat
  exponent : Int
deriving DecidableEq, Repr

/- The fraction rounded to `places + 1` significant digits. -/
def Ratio.scientific
    (r : Ratio)
    (places : Nat) :
    Scientific :=
  if r.num = 0 then
    ⟨0, places, 0⟩
  else
    let exponent := r.decimalExponent
    let coefficient := (r.scaleTen (places - exponent)).round
    if coefficient = Nat.pow 10 (places + 1) then
      ⟨Nat.pow 10 places, places, exponent + 1⟩
    else
      ⟨coefficient, places, exponent⟩

namespace Scientific

/- The digits in front of the exponent, with their point. -/
def mantissa
    (s : Scientific) :
    Text :=
  withPoint s.places s.coefficient

/- The digits of the coefficient. -/
def digits
    (s : Scientific) :
    Text :=
  (Text.ofNat s.coefficient).zeroPadded (s.places + 1)

/- The value without an exponent, with a digit after the point. -/
def positional
    (s : Scientific) :
    Text :=
  if s.exponent < 0 then
    '0' :: '.' ::
      List.replicate (-s.exponent - 1).toNat '0' ++ s.digits
  else
    let whole := s.exponent.toNat + 1
    let padded :=
      s.digits ++
        List.replicate (whole + 1 - s.digits.length) '0'
    padded.take whole ++ '.' :: padded.drop whole

end Scientific

/-
  An exponent with the letter in front of it: `-` before a
  negative one, `+` before any other if asked for, and at
  least `width` digits.
-/
def exponentText
    (plus : Bool)
    (width : Nat)
    (exponent : Int) :
    Text :=
  'e' ::
    (if exponent < 0 then ['-'] else if plus then ['+'] else []) ++
    (Text.ofNat exponent.natAbs).zeroPadded width

/- The digits, and the exponent by itself behind them. -/
def Scientific.text
    (s : Scientific) :
    Text :=
  s.mantissa ++ exponentText false 1 s.exponent

end LogLine

------------------------------------------------------------
-- Shortest Digits
------------------------------------------------------------

namespace LogLine

namespace Binary64

/-
  The distance from a number to the middle between it and the
  next lower one, in quarters of its unit.
-/
def lowerQuarters
    (x : Binary64) :
    Nat :=
  if x.fraction.val = 0 ∧ 1 < x.exponent.val then 1 else 2

/-
  The decimal with `places + 1` digits, at the given exponent,
  that reads back as `x`: of the two neighbours of the value
  that do, the nearer one, and the upper one of equally near
  ones.
-/
def shortestAt
    (x : Binary64)
    (exponent : Int)
    (places : Nat) :
    Option Nat :=
  let quarter := (Ratio.ofNat 1).scaleTwo (x.unitExponent - 2)
  let unit := quarter.scaleTen (places - exponent)
  let value := 4 * x.significand * unit.num
  let low := (4 * x.significand - x.lowerQuarters) * unit.num
  let high := (4 * x.significand + 2) * unit.num
  let below := value / unit.den
  let closed := x.significand % 2 = 0
  let belowFits :=
    low < below * unit.den ∨ (closed ∧ low = below * unit.den)
  let aboveFits :=
    (below + 1) * unit.den < high ∨
      (closed ∧ (below + 1) * unit.den = high)
  let nearer :=
    if 2 * (value % unit.den) < unit.den then below else below + 1
  if belowFits ∧ aboveFits then
    some nearer
  else if belowFits then
    some below
  else if aboveFits then
    some (below + 1)
  else
    none

/-
  The fewest digits that read back as the finite number `x`;
  seventeen are always enough.
-/
def shortest
    (x : Binary64) :
    Scientific :=
  if x.significand = 0 then
    ⟨0, 0, 0⟩
  else
    let exponent := x.magnitude.decimalExponent
    let found := (List.range 17).findSome? fun places =>
      (x.shortestAt exponent places).map fun coefficient =>
        if coefficient = Nat.pow 10 (places + 1) then
          (⟨1, 0, exponent + 1⟩ : Scientific)
        else
          ⟨coefficient, places, exponent⟩
    found.getD (x.magnitude.scientific 16)

theorem shortest_abs
    (x : Binary64) :
    x.abs.shortest = x.shortest :=
  rfl

end Binary64

end LogLine

------------------------------------------------------------
-- Layouts
------------------------------------------------------------

namespace LogLine

/-
  How a format lays out the shortest digits of a number: for
  which exponents it writes them without an exponent, how it
  writes the others, and what it writes for no number.
-/
structure FloatLayout where
  leastPositional : Int
  greatestPositional : Int
  exponentPlus : Bool
  exponentWidth : Nat
  nan : Text
deriving DecidableEq, Repr

namespace Binary64

/- The sign that a number is written with; zero can have one. -/
def signMark
    (x : Binary64) :
    Text :=
  if x.negative then ['-'] else []

theorem signMark_abs
    (x : Binary64) :
    x.abs.signMark = [] :=
  rfl

/- A finite number by its shortest digits, without an exponent. -/
def positionalText
    (x : Binary64) :
    Text :=
  x.signMark ++ x.shortest.positional

/- A finite number by its shortest digits and an exponent. -/
def exponentialText
    (x : Binary64)
    (plus : Bool)
    (width : Nat) :
    Text :=
  x.signMark ++ x.shortest.mantissa ++
    exponentText plus width x.shortest.exponent

theorem positionalText_eq
    (x : Binary64) :
    x.positionalText = x.signMark ++ x.abs.positionalText := by
  rw [positionalText, positionalText, shortest_abs,
    signMark_abs, List.nil_append]

theorem exponentialText_eq
    (x : Binary64)
    (plus : Bool)
    (width : Nat) :
    x.exponentialText plus width =
      x.signMark ++ x.abs.exponentialText plus width := by
  rw [exponentialText, exponentialText, shortest_abs,
    signMark_abs, List.nil_append, List.append_assoc]

end Binary64

namespace FloatLayout

/- Whether a finite number is written without an exponent. -/
def isPositional
    (layout : FloatLayout)
    (x : Binary64) :
    Bool :=
  layout.leastPositional ≤ x.shortest.exponent &&
    x.shortest.exponent ≤ layout.greatestPositional

/- Any number. -/
def write
    (layout : FloatLayout)
    (x : Binary64) :
    Text :=
  if x.isNaN then
    layout.nan
  else if x.isInfinite then
    if x.negative then "-inf".toList else "inf".toList
  else if layout.isPositional x then
    x.positionalText
  else
    x.exponentialText layout.exponentPlus layout.exponentWidth

/-
  Only one that is a number has a sign, and the sign stands in
  front of what is written without it.
-/
theorem write_eq_append_write_abs
    (layout : FloatLayout)
    (x : Binary64) :
    layout.write x =
      (if x.negative && !x.isNaN then ['-'] else []) ++
        layout.write x.abs := by
  have hNaN : x.abs.isNaN = x.isNaN := rfl
  have hInfinite : x.abs.isInfinite = x.isInfinite := rfl
  have hPositional :
      layout.isPositional x.abs = layout.isPositional x := by
    rw [isPositional, x.shortest_abs, isPositional]
  unfold write
  rw [hNaN, hInfinite, hPositional, x.positionalText_eq,
    x.exponentialText_eq, Binary64.signMark]
  cases x.isNaN with
  | true => rw [Bool.not_true, Bool.and_false]; rfl
  | false =>
      rw [Bool.not_false, Bool.and_true]
      cases x.isInfinite with
      | true => cases x.negative <;> rfl
      | false => cases layout.isPositional x <;> rfl

end FloatLayout

end LogLine
