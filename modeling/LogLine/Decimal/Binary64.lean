import LogLine.Decimal.Ratio

/-
  Binary floating-point numbers of 64 bits.

  Key definitions include:
    * `LogLine.Binary64`
    * `LogLine.Binary64.ofBits`
    * `LogLine.Binary64.toBits`
    * `LogLine.Binary64.magnitude`
    * `LogLine.Binary64.ofRatio`
    * `LogLine.Binary64.ofInt`

  Arithmetic on these numbers is exact arithmetic on
  fractions, followed by one rounding to the nearest number;
  a tie goes to the even significand.
-/

------------------------------------------------------------
-- Sign, Exponent and Fraction
------------------------------------------------------------

namespace LogLine

/- A number by the three fields of its bits. -/
structure Binary64 where
  negative : Bool
  exponent : Fin 2048
  fraction : Fin 4503599627370496
deriving DecidableEq, Repr

namespace Binary64

/- The number whose bits, read as an integer, are `bits`. -/
def ofBits
    (bits : Nat) :
    Binary64 where
  negative := bits / Nat.pow 2 63 % 2 == 1
  exponent := Fin.ofNat 2048 (bits / Nat.pow 2 52)
  fraction := Fin.ofNat 4503599627370496 bits

/- The bits of a number, read as an integer. -/
def toBits
    (x : Binary64) :
    Nat :=
  (if x.negative then Nat.pow 2 63 else 0) +
    x.exponent.val * Nat.pow 2 52 + x.fraction.val

instance : Inhabited Binary64 :=
  ⟨ofBits 0⟩

/- Whether the number is no number at all. -/
def isNaN
    (x : Binary64) :
    Bool :=
  x.exponent.val == 2047 && x.fraction.val != 0

/- Whether the number is an infinity. -/
def isInfinite
    (x : Binary64) :
    Bool :=
  x.exponent.val == 2047 && x.fraction.val == 0

/- Whether the number has a value. -/
def isFinite
    (x : Binary64) :
    Bool :=
  x.exponent.val != 2047

/- The number without its sign. -/
def abs
    (x : Binary64) :
    Binary64 :=
  { x with negative := false }

end Binary64

end LogLine

------------------------------------------------------------
-- Values
------------------------------------------------------------

namespace LogLine

namespace Binary64

/- The integer that the value is a multiple of a unit by. -/
def significand
    (x : Binary64) :
    Nat :=
  if x.exponent.val = 0 then
    x.fraction.val
  else
    4503599627370496 + x.fraction.val

/- The power of two that is the unit of the significand. -/
def unitExponent
    (x : Binary64) :
    Int :=
  if x.exponent.val = 0 then
    -1074
  else
    (x.exponent.val : Int) - 1075

/- The absolute value of a finite number. -/
def magnitude
    (x : Binary64) :
    Ratio :=
  (Ratio.ofNat x.significand).scaleTwo x.unitExponent

end Binary64

end LogLine

------------------------------------------------------------
-- Rounding to the Nearest Number
------------------------------------------------------------

namespace LogLine

namespace Binary64

def zero
    (negative : Bool) :
    Binary64 :=
  ⟨negative, 0, 0⟩

def infinity
    (negative : Bool) :
    Binary64 :=
  ⟨negative, 2047, 0⟩

/- The number with an empty sign and payload that has no value. -/
def nan : Binary64 :=
  ⟨false, 2047, 2251799813685248⟩

/-
  The number with value `significand * 2 ^ unitExponent`, for
  a significand of at most 53 bits and `2 ^ 53`, where fewer
  than 53 bits come with the least unit only.
-/
def pack
    (negative : Bool)
    (significand : Nat)
    (unitExponent : Int) :
    Binary64 :=
  if significand < 4503599627370496 then
    ⟨negative, 0, Fin.ofNat _ significand⟩
  else
    let carry := significand = 9007199254740992
    let fraction := if carry then 0 else
      significand - 4503599627370496
    let exponent := (unitExponent + 1075).toNat +
      if carry then 1 else 0
    if 2047 ≤ exponent then
      infinity negative
    else
      ⟨negative, Fin.ofNat _ exponent, Fin.ofNat _ fraction⟩

/- The number nearest to a fraction. -/
def ofRatio
    (negative : Bool)
    (r : Ratio) :
    Binary64 :=
  if r.num = 0 then
    zero negative
  else
    let unitExponent := max (r.binaryExponent - 52) (-1074)
    pack negative (r.scaleTwo (-unitExponent)).round unitExponent

/- The number nearest to an integer. -/
def ofInt
    (n : Int) :
    Binary64 :=
  ofRatio (n < 0) (Ratio.ofNat n.natAbs)

/- The number nearest to a multiple of a number. -/
def timesNat
    (x : Binary64)
    (n : Nat) :
    Binary64 :=
  if x.isFinite then
    ofRatio x.negative (x.magnitude.times n)
  else
    x

/- The number nearest to a fraction of a finite number. -/
def dividedByNat
    (x : Binary64)
    (n : Nat)
    (hPos : 0 < n := by decide) :
    Binary64 :=
  if x.isFinite then
    ofRatio x.negative (x.magnitude.dividedBy n hPos)
  else
    x

/-
  The number nearest to `coefficient * 10 ^ exponent`.  Powers
  far outside of the range are settled by the number of digits.
-/
def ofScientific
    (negative : Bool)
    (coefficient : Nat)
    (exponent : Int) :
    Binary64 :=
  let digits : Int := decimalLength coefficient
  if coefficient = 0 ∨ digits + exponent < -400 then
    zero negative
  else if 400 < digits + exponent then
    infinity negative
  else
    ofRatio negative ((Ratio.ofNat coefficient).scaleTen exponent)

end Binary64

end LogLine
