import LogLine.Text
import LogLine.Decimal.Binary64

/-
  Trees of data as YAML documents hold them, and the values of
  their scalars in the core schema.

  Key definitions include:
    * `LogLine.Yaml.Atom`
    * `LogLine.Yaml.Node`
    * `LogLine.Yaml.integer?`
    * `LogLine.Yaml.float?`
    * `LogLine.Yaml.Atom.ofPlain`
-/

------------------------------------------------------------
-- Trees
------------------------------------------------------------

namespace LogLine

namespace Yaml

/- The value of a scalar. -/
inductive Atom where
  | null
  | bool (value : Bool)
  | int (n : Int)
  | float (x : Binary64)
  | text (text : Text)
deriving DecidableEq

/- A tree of data.  A scalar keeps the text that it was written by. -/
inductive Node where
  | scalar (source : Text) (value : Atom)
  | list (items : List Node)
  | map (entries : List (Node × Node))

end Yaml

end LogLine

------------------------------------------------------------
-- Integers
------------------------------------------------------------

namespace LogLine

namespace Yaml

/- The value of a digit in any base up to sixteen. -/
def digitValue?
    (c : Char) :
    Option Nat :=
  if '0' ≤ c ∧ c ≤ '9' then
    some (c.toNat - '0'.toNat)
  else if 'a' ≤ c ∧ c ≤ 'f' then
    some (c.toNat - 'a'.toNat + 10)
  else if 'A' ≤ c ∧ c ≤ 'F' then
    some (c.toNat - 'A'.toNat + 10)
  else
    none

/- The number that digits give in a base. -/
def natural?
    (base : Nat)
    (digits : Text) :
    Option Nat :=
  if digits.isEmpty then
    none
  else
    digits.foldlM
      (fun value c => do
        let digit ← digitValue? c
        if digit < base then
          return base * value + digit
        else
          none)
      0

/-
  Whether a text is a zero with digits behind it; such a text
  is no number.
-/
def isZeroLed
    (digits : Text) :
    Bool :=
  match digits with
  | '0' :: c :: rest => (c :: rest).all Char.isDigit
  | _ => false

/- The number of a text without sign. -/
def unsigned?
    (text : Text) :
    Option Nat :=
  match text with
  | '0' :: 'x' :: digits => natural? 16 digits
  | '0' :: 'o' :: digits => natural? 8 digits
  | '0' :: 'b' :: digits => natural? 2 digits
  | digits =>
      if isZeroLed digits then none else natural? 10 digits

/- The integer of a text, if it fits 128 bits. -/
def integer?
    (text : Text) :
    Option Int :=
  match text with
  | '-' :: rest =>
      (unsigned? rest).bind fun n =>
        if n ≤ Nat.pow 2 127 then some (-(n : Int)) else none
  | '+' :: rest =>
      (unsigned? rest).bind fun n =>
        if n < Nat.pow 2 128 then some n else none
  | _ =>
      (unsigned? text).bind fun n =>
        if n < Nat.pow 2 128 then some n else none

end Yaml

end LogLine

------------------------------------------------------------
-- Floating-Point Numbers
------------------------------------------------------------

namespace LogLine

namespace Yaml

/- The text without a sign, and whether that was `-`. -/
def splitSign
    (text : Text) :
    Bool × Text :=
  match text with
  | '-' :: rest => (true, rest)
  | '+' :: rest => (false, rest)
  | _ => (false, text)

/- The power of ten behind the digits of a number. -/
def exponent?
    (text : Text) :
    Option Int :=
  match text with
  | [] => some 0
  | c :: rest =>
      if c = 'e' ∨ c = 'E' then
        let (negative, digits) := splitSign rest
        if !digits.isEmpty && digits.all Char.isDigit then
          let n : Int := Text.digitsValue digits
          some (if negative then -n else n)
        else
          none
      else
        none

/- The nearest number to a decimal without sign. -/
def decimal?
    (negative : Bool)
    (text : Text) :
    Option Binary64 := do
  let whole := text.takeWhile Char.isDigit
  let (fraction, rest) :=
    match text.dropWhile Char.isDigit with
    | '.' :: rest =>
        (rest.takeWhile Char.isDigit, rest.dropWhile Char.isDigit)
    | rest => ([], rest)
  let digits := whole ++ fraction
  let exponent ← exponent? rest
  if digits.isEmpty then
    none
  else
    return Binary64.ofScientific negative
      (Text.digitsValue digits) (exponent - fraction.length)

/- The words for infinity behind a sign. -/
def infinityWords : List Text :=
  [".inf".toList, ".Inf".toList, ".INF".toList]

/- The words for no number. -/
def nanWords : List Text :=
  [".nan".toList, ".NaN".toList, ".NAN".toList]

/- The number of a text that is no integer. -/
def float?
    (text : Text) :
    Option Binary64 :=
  let (negative, digits) := splitSign text
  if digits ∈ infinityWords then
    some (Binary64.infinity negative)
  else if text ∈ nanWords then
    some Binary64.nan
  else if isZeroLed digits then
    none
  else
    (decimal? negative digits).filter Binary64.isFinite

end Yaml

end LogLine

------------------------------------------------------------
-- Scalars
------------------------------------------------------------

namespace LogLine

namespace Yaml

def nullWords : List Text :=
  [[], "null".toList, "Null".toList, "NULL".toList, ['~']]

def trueWords : List Text :=
  ["true".toList, "True".toList, "TRUE".toList]

def falseWords : List Text :=
  ["false".toList, "False".toList, "FALSE".toList]

/- The value of a text without quotes. -/
def Atom.ofPlain
    (text : Text) :
    Atom :=
  if text ∈ nullWords then
    .null
  else if text ∈ trueWords then
    .bool true
  else if text ∈ falseWords then
    .bool false
  else
    match integer? text with
    | some n => .int n
    | none =>
        match float? text with
        | some x => .float x
        | none => .text text

namespace Node

/- A scalar without quotes. -/
def plain
    (text : Text) :
    Node :=
  scalar text (Atom.ofPlain text)

/- A scalar between quotes. -/
def quoted
    (text : Text) :
    Node :=
  scalar text (.text text)

end Node

end Yaml

end LogLine
