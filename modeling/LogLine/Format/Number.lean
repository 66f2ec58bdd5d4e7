import LogLine.Format.Padding
import LogLine.Format.Grouping

/-
  Integers and floating-point numbers under a format spec.

  Key definitions include:
    * `LogLine.dropTrailingZeros`
    * `LogLine.normalizeExponent`
    * `LogLine.Base`
    * `LogLine.Spec.integerBody`
    * `LogLine.Ratio.general`
    * `LogLine.Spec.floatBody`
-/

------------------------------------------------------------
-- Signs
------------------------------------------------------------

namespace LogLine

namespace Spec

/- What stands in front of a number. -/
def signText
    (spec : Spec)
    (negative : Bool) :
    Text :=
  if negative then
    ['-']
  else
    match spec.sign with
    | some .plus => ['+']
    | some .space => [' ']
    | _ => []

end Spec

end LogLine

------------------------------------------------------------
-- General Notation
------------------------------------------------------------

namespace LogLine

/-
  Drop the zeros at the end of a fraction, and the point if
  no digit is left behind it.
-/
def trimFraction
    (number : Text) :
    Text :=
  if '.' ∈ number then
    let digits :=
      (number.reverse.dropWhile (· == '0')).reverse
    Text.dropFinal '.' digits
  else
    number

/- The part of a number in front of its exponent. -/
def mantissaOf
    (text : Text) :
    Text :=
  text.beforeFirst (· == 'e')

/- The exponent of a number, if it has one. -/
def powerOf
    (text : Text) :
    Text :=
  text.fromFirst (· == 'e')

/- Drop the zeros at the end of the fraction of a number. -/
def dropTrailingZeros
    (number : Text) :
    Text :=
  trimFraction (mantissaOf number) ++ powerOf number

def isExponentMark
    (c : Char) :
    Bool :=
  c == 'e' || c == 'E'

/- Give an exponent its sign, and two digits or more. -/
def normalizeExponent
    (number : Text) :
    Text :=
  match number.fromFirst isExponentMark with
  | [] => number
  | mark :: power =>
      let (sign, digits) : Char × Text :=
        if power.head? = some '-' then
          ('-', power.tail)
        else
          ('+', Text.dropInitial '+' power)
      number.beforeFirst isExponentMark ++
        mark :: sign :: digits.zeroPadded 2

/- The point that a number without a fraction gets if asked for. -/
def barePoint
    (alternate : Bool)
    (places : Nat) :
    Text :=
  if alternate && places == 0 then ['.'] else []

namespace Ratio

/- A fraction with a number of places. -/
def fixedText
    (r : Ratio)
    (places : Nat)
    (alternate : Bool) :
    Text :=
  r.fixed places ++ barePoint alternate places

/- A fraction with one digit, a number of places and an exponent. -/
def scientificText
    (r : Ratio)
    (places : Nat)
    (alternate : Bool) :
    Text :=
  let rounded := r.scientific places
  normalizeExponent
    (rounded.mantissa ++ barePoint alternate places ++
      exponentText false 1 rounded.exponent)

/-
  A fraction with a number of significant digits, with an
  exponent only if that is below -4 or not below the number of
  digits.  Zeros at the end of the fraction stay in the
  alternate form only.
-/
def general
    (r : Ratio)
    (precision : Nat)
    (alternate : Bool) :
    Text :=
  let digits := max precision 1
  if r.num = 0 then
    if alternate then r.fixed (digits - 1) else ['0']
  else
    let rounded := r.scientific (digits - 1)
    let number :=
      if -4 ≤ rounded.exponent ∧ rounded.exponent < digits then
        r.fixed (digits - 1 - rounded.exponent).toNat
      else
        rounded.text
    normalizeExponent
      (if alternate then number else dropTrailingZeros number)

end Ratio

end LogLine

------------------------------------------------------------
-- Floating-Point Numbers
------------------------------------------------------------

namespace LogLine

namespace Spec

/- Whether the code of a spec asks for upper case. -/
def upperCode
    (spec : Spec) :
    Bool :=
  spec.code ∈ [some 'E', some 'F', some 'G']

/- Text for an absolute value that is infinite or no number. -/
def nonFiniteText
    (spec : Spec)
    (x : Binary64) :
    Text :=
  (if x.isNaN then "nan".toList else "inf".toList) ++
    (if spec.code = some '%' then ['%'] else [])

/- A general text that shows it is no integer. -/
def withFraction
    (number : Text) :
    Text :=
  if '.' ∈ number ∨ 'e' ∈ number then
    number
  else
    number ++ ['.', '0']

/- Text for a hundred times a finite absolute value. -/
def percentText
    (spec : Spec)
    (x : Binary64)
    (places : Nat) :
    Text :=
  let hundredfold := x.abs.timesNat 100
  (if hundredfold.isFinite then
    hundredfold.magnitude.fixedText places spec.alternate
  else
    "inf".toList ++ barePoint spec.alternate places) ++ ['%']

/- Text for a finite absolute value. -/
def finiteText
    (spec : Spec)
    (x : Binary64) :
    Except FormatError Text :=
  let r := x.magnitude
  let precision := spec.precision.getD 6
  let alternate := spec.alternate
  match spec.code with
  | some 'f' | some 'F' => .ok (r.fixedText precision alternate)
  | some 'e' | some 'E' =>
      .ok (r.scientificText precision alternate)
  | some 'g' | some 'G' | some 'n' =>
      .ok (r.general precision alternate)
  | some '%' => .ok (spec.percentText x precision)
  | some code => .error (.unknownCode code .float)
  | none =>
      match spec.precision with
      | some digits =>
          .ok (withFraction (r.general digits alternate))
      | none => .ok (valueLayout.write x.abs)

/- Text for an absolute value, in the case of the code. -/
def magnitudeText
    (spec : Spec)
    (x : Binary64) :
    Except FormatError Text := do
  let text ←
    if x.isFinite then
      spec.finiteText x
    else
      .ok (spec.nonFiniteText x)
  return if spec.upperCode then text.upperAscii else text

/- The digits of a number in groups, if a spec asks for them. -/
def grouped
    (spec : Spec)
    (text : Text) :
    Except FormatError Text :=
  match spec.grouping with
  | none => .ok text
  | some separator =>
      if spec.code = some 'n' then
        .error (.groupingWithCode separator 'n')
      else
        .ok (groupWhole separator text)

/- A floating-point number under a spec, without padding. -/
def floatBody
    (spec : Spec)
    (x : Binary64) :
    Except FormatError Body := do
  let text ← spec.magnitudeText x
  let text ← spec.grouped text
  return ⟨spec.signText (x.negative && !x.isNaN), text, true⟩

end Spec

end LogLine

------------------------------------------------------------
-- Integers
------------------------------------------------------------

namespace LogLine

/- A way to write integers by digits. -/
structure Base where
  radix : Nat
  marker : Text
  upper : Bool
  groupings : List (Char × Nat)
deriving DecidableEq, Repr

namespace Base

/-
  The base of a code.  Decimal digits can be grouped by three,
  those of the other bases by four and underscores.
-/
def ofCode? : Char → Option Base
  | 'd' => some ⟨10, [], false, [(',', 3), ('_', 3)]⟩
  | 'n' => some ⟨10, [], false, []⟩
  | 'b' => some ⟨2, ['0', 'b'], false, [('_', 4)]⟩
  | 'o' => some ⟨8, ['0', 'o'], false, [('_', 4)]⟩
  | 'x' => some ⟨16, ['0', 'x'], false, [('_', 4)]⟩
  | 'X' => some ⟨16, ['0', 'X'], true, [('_', 4)]⟩
  | _ => none

/- The digits of a natural number. -/
def digits
    (base : Base)
    (n : Nat) :
    Text :=
  let digits : Text := Nat.toDigits base.radix n
  if base.upper then digits.upperAscii else digits

end Base

namespace Spec

/- The codes under which an integer is a floating-point number. -/
def floatCodes : List Char :=
  ['e', 'E', 'f', 'F', 'g', 'G', '%']

/- The character with a code point. -/
def charOf?
    (n : Int64) :
    Option Char :=
  if 0 ≤ n.toInt ∧ n.toInt.toNat.isValidChar then
    some (Char.ofNat n.toInt.toNat)
  else
    none

/- An integer as the character that it is the code point of. -/
def characterBody
    (spec : Spec)
    (n : Int64) :
    Except FormatError Body :=
  match charOf? n with
  | none => .error .charOutOfRange
  | some c =>
      if spec.sign.isSome then
        .error .signOfCharacter
      else
        .ok ⟨[], [c], false⟩

/- An integer by its digits in a base. -/
def digitsBody
    (spec : Spec)
    (code : Char)
    (base : Base)
    (n : Int64) :
    Except FormatError Body := do
  let digits := base.digits n.toInt.natAbs
  let digits ←
    match spec.grouping with
    | none => .ok digits
    | some separator =>
        match base.groupings.lookup separator with
        | some size => .ok (groupDigits separator size digits)
        | none => .error (.groupingWithCode separator code)
  return {
    lead := spec.signText (n.toInt < 0) ++
      (if spec.alternate then base.marker else [])
    text := digits
    numeric := true }

/- An integer under a spec, without padding. -/
def integerBody
    (spec : Spec)
    (n : Int64) :
    Except FormatError Body :=
  let code := spec.code.getD 'd'
  if code ∈ floatCodes then
    spec.floatBody (Binary64.ofInt n.toInt)
  else if spec.precision.isSome then
    .error .precisionOfInteger
  else if code = 'c' then
    spec.characterBody n
  else
    match Base.ofCode? code with
    | some base => spec.digitsBody code base n
    | none => .error (.unknownCode code .int)

end Spec

end LogLine
