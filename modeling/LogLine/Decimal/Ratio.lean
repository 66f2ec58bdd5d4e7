/-
  Non-negative fractions, and rounding them to a multiple of
  a unit.

  Key definitions include:
    * `LogLine.Ratio`
    * `LogLine.Ratio.round`
    * `LogLine.Ratio.scaleTen`
    * `LogLine.Ratio.scaleTwo`
    * `LogLine.Ratio.decimalExponent`
    * `LogLine.Ratio.binaryExponent`
-/

------------------------------------------------------------
-- Fractions
------------------------------------------------------------

namespace LogLine

/- A non-negative fraction, not always in lowest terms. -/
structure Ratio where
  num : Nat
  den : Nat
  den_pos : 0 < den := by decide
deriving DecidableEq

namespace Ratio

/- A natural number as a fraction. -/
def ofNat
    (n : Nat) :
    Ratio :=
  { num := n, den := 1 }

/- The fraction times a natural number. -/
def times
    (r : Ratio)
    (n : Nat) :
    Ratio :=
  { num := r.num * n, den := r.den, den_pos := r.den_pos }

/- The fraction divided by a positive natural number. -/
def dividedBy
    (r : Ratio)
    (n : Nat)
    (hPos : 0 < n := by decide) :
    Ratio :=
  { num := r.num
    den := r.den * n
    den_pos := Nat.mul_pos r.den_pos hPos }

/- The fraction times a power of a positive base. -/
def scale
    (base : Nat)
    (hBase : 0 < base)
    (r : Ratio)
    (power : Int) :
    Ratio :=
  if 0 ≤ power then
    r.times (base.pow power.toNat)
  else
    r.dividedBy (base.pow (-power).toNat) (Nat.pow_pos hBase)

/- The fraction times a power of ten. -/
def scaleTen
    (r : Ratio)
    (power : Int) :
    Ratio :=
  r.scale 10 (by decide) power

/- The fraction times a power of two. -/
def scaleTwo
    (r : Ratio)
    (power : Int) :
    Ratio :=
  r.scale 2 (by decide) power

end Ratio

end LogLine

------------------------------------------------------------
-- Rounding
------------------------------------------------------------

namespace LogLine

namespace Ratio

/-
  The nearest natural number; of two equally near ones, the
  even one.
-/
def round
    (r : Ratio) :
    Nat :=
  let quotient := r.num / r.den
  let remainder := r.num % r.den
  if 2 * remainder < r.den then
    quotient
  else if r.den < 2 * remainder then
    quotient + 1
  else
    quotient + quotient % 2

end Ratio

end LogLine

------------------------------------------------------------
-- Orders of Magnitude
------------------------------------------------------------

namespace LogLine

/- The number of decimal digits; zero has none. -/
def decimalLength
    (n : Nat) :
    Nat :=
  if n = 0 then 0 else (Nat.toDigits 10 n).length

namespace Ratio

/-
  The power `e` with `10 ^ e ≤ r < 10 ^ (e + 1)`, for a
  positive fraction `r`.
-/
def decimalExponent
    (r : Ratio) :
    Int :=
  if r.den ≤ r.num then
    (decimalLength (r.num / r.den) : Int) - 1
  else
    -(decimalLength ((r.den - 1) / r.num) : Int)

/-
  The power `e` with `2 ^ e ≤ r < 2 ^ (e + 1)`, for a
  positive fraction `r`.
-/
def binaryExponent
    (r : Ratio) :
    Int :=
  let guess := (r.num.log2 : Int) - r.den.log2
  let shifted := r.scaleTwo (-guess)
  if shifted.den ≤ shifted.num then guess else guess - 1

end Ratio

end LogLine
