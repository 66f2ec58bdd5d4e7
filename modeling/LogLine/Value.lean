import LogLine.Text.Quoted
import LogLine.Decimal.Notation

/-
  Values that stand for fields when a line is written.

  Key definitions include:
    * `LogLine.Value`
    * `LogLine.Value.display`
    * `LogLine.Value.repr`
    * `LogLine.Value.ascii`
-/

------------------------------------------------------------
-- Values
------------------------------------------------------------

namespace LogLine

/- The value of a field; `none` is that of an absent one. -/
inductive Value where
  | str (text : Text)
  | int (n : Int64)
  | float (x : Binary64)
  | none
deriving DecidableEq

/- The kinds of values that formats tell apart. -/
inductive ValueKind where
  | str
  | int
  | float
  | none
deriving DecidableEq, Repr

namespace ValueKind

/- The name of a kind in messages. -/
def name : ValueKind → String
  | str => "str"
  | int => "int"
  | float => "float"
  | none => "NoneType"

end ValueKind

namespace Value

def kind : Value → ValueKind
  | str _ => .str
  | int _ => .int
  | float _ => .float
  | none => .none

/- The text of a text value. -/
def text? : Value → Option Text
  | str text => some text
  | _ => Option.none

def isNone : Value → Bool
  | none => true
  | _ => false

end Value

end LogLine

------------------------------------------------------------
-- Texts of Values
------------------------------------------------------------

namespace LogLine

/-
  Floating-point values are written without an exponent from
  0.0001 up to, and not including, 10^16; other exponents
  have a sign and two digits or more.
-/
def valueLayout : FloatLayout where
  leastPositional := -4
  greatestPositional := 15
  exponentPlus := true
  exponentWidth := 2
  nan := "nan".toList

namespace Value

/- A value as it stands in a line. -/
def display : Value → Text
  | str text => text
  | int n => Text.ofInt n.toInt
  | float x => valueLayout.write x
  | none => "None".toList

/- A value between quotes if it is a text, else as displayed. -/
def quotedIn
    (charset : Charset) :
    Value → Text
  | str text => text.quoted charset
  | value => value.display

/- The quoted form of a value. -/
def repr : Value → Text :=
  quotedIn .unicode

/- The quoted form of a value in ASCII characters only. -/
def ascii : Value → Text :=
  quotedIn .ascii

end Value

end LogLine

------------------------------------------------------------
-- Values of Other Types
------------------------------------------------------------

namespace LogLine

namespace Value

/- Whether an integer fits an integer value. -/
def fitsInt
    (n : Int) :
    Bool :=
  -9223372036854775808 ≤ n && n ≤ 9223372036854775807

/-
  An integer as a value; one that does not fit becomes the
  nearest floating-point number.
-/
def ofInt
    (n : Int) :
    Value :=
  if fitsInt n then
    int (Int64.ofInt n)
  else
    float (Binary64.ofInt n)

def ofNat
    (n : Nat) :
    Value :=
  ofInt n

def ofString
    (s : String) :
    Value :=
  str s.toList

/- The value, or `none` for an absent one. -/
def ofOption : Option Value → Value
  | some value => value
  | .none => none

end Value

end LogLine
