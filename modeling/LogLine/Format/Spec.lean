import LogLine.Value

/-
  Format specs

    spec = [[fill] align] [sign] ["#"] ["0"] [width]
           [grouping] ["." precision] [code]

  Key definitions include:
    * `LogLine.Spec`
    * `LogLine.Spec.parse`
    * `LogLine.Spec.write`
    * `LogLine.FormatError`
-/

------------------------------------------------------------
-- Parts of a Spec
------------------------------------------------------------

namespace LogLine

/- Where a value stands in its field. -/
inductive Align where
  | left
  | right
  | center
  /- The padding goes behind the sign and the base. -/
  | afterSign
deriving DecidableEq, Repr

namespace Align

def ofChar? : Char → Option Align
  | '<' => some left
  | '>' => some right
  | '^' => some center
  | '=' => some afterSign
  | _ => none

def toChar : Align → Char
  | left => '<'
  | right => '>'
  | center => '^'
  | afterSign => '='

end Align

/- What stands in front of a number that is not negative. -/
inductive Sign where
  | minus
  | plus
  | space
deriving DecidableEq, Repr

namespace Sign

def ofChar? : Char → Option Sign
  | '-' => some minus
  | '+' => some plus
  | ' ' => some space
  | _ => none

def toChar : Sign → Char
  | minus => '-'
  | plus => '+'
  | space => ' '

end Sign

/- A format spec by its parts. -/
structure Spec where
  fill : Option Char
  align : Option Align
  sign : Option Sign
  alternate : Bool
  zero : Bool
  width : Option Nat
  grouping : Option Char
  precision : Option Nat
  code : Option Char
deriving DecidableEq, Repr

/- The spec without any part. -/
def Spec.blank : Spec :=
  ⟨none, none, none, false, false, none, none, none, none⟩

end LogLine

------------------------------------------------------------
-- Failures
------------------------------------------------------------

namespace LogLine

/- What a spec for text must not ask for. -/
inductive TextRestriction where
  | sign
  | alternateForm
  | afterSignAlignment
deriving DecidableEq, Repr

def TextRestriction.description : TextRestriction → String
  | sign => "sign"
  | alternateForm => "alternate form (#)"
  | afterSignAlignment => "'=' alignment"

/- Why a value cannot be formatted. -/
inductive FormatError where
  /- The text is no spec. -/
  | invalidSpec (spec : Text)
  /- An integer in an integer code takes no precision. -/
  | precisionOfInteger
  /- An integer written as a character takes no sign. -/
  | signOfCharacter
  /- The code does not go with values of this kind. -/
  | unknownCode (code : Char) (kind : ValueKind)
  | notAllowedForText (what : TextRestriction)
  /- The code cannot be grouped by this separator. -/
  | groupingWithCode (separator code : Char)
  /- The integer is not the code point of a character. -/
  | charOutOfRange
deriving DecidableEq, Repr

namespace FormatError

/- The message for a text that is no spec. -/
def invalidSpecMessage
    (spec : String) :
    String :=
  "invalid format specifier '" ++ spec ++ "'"

def message : FormatError → String
  | invalidSpec spec => invalidSpecMessage (String.ofList spec)
  | precisionOfInteger =>
      invalidSpecMessage
        "precision not allowed in integer format specifier"
  | signOfCharacter =>
      invalidSpecMessage
        "sign not allowed with integer format specifier 'c'"
  | unknownCode code kind =>
      "unknown format code '" ++ code.toString ++
        "' for value of type " ++ kind.name
  | notAllowedForText what =>
      what.description ++
        " not allowed in string format specifier"
  | groupingWithCode separator code =>
      "cannot specify '" ++ separator.toString ++
        "' with '" ++ code.toString ++ "'"
  | charOutOfRange => "%c arg not in range(0x110000)"

end FormatError

end LogLine

------------------------------------------------------------
-- Reading Parts
------------------------------------------------------------

namespace LogLine

namespace Spec

/- Read fill and alignment; the second character decides. -/
def takeAlign
    (text : Text) :
    (Option Char × Option Align) × Text :=
  match text with
  | [] => ((none, none), [])
  | [c] =>
      match Align.ofChar? c with
      | some align => ((none, some align), [])
      | none => ((none, none), [c])
  | c :: d :: rest =>
      match Align.ofChar? d with
      | some align => ((some c, some align), rest)
      | none =>
          match Align.ofChar? c with
          | some align => ((none, some align), d :: rest)
          | none => ((none, none), c :: d :: rest)

/- Read a sign. -/
def takeSign
    (text : Text) :
    Option Sign × Text :=
  match text with
  | [] => (none, [])
  | c :: rest =>
      match Sign.ofChar? c with
      | some sign => (some sign, rest)
      | none => (none, c :: rest)

/- Read one flag. -/
def takeFlag
    (flag : Char)
    (text : Text) :
    Bool × Text :=
  match text with
  | [] => (false, [])
  | c :: rest =>
      if c = flag then (true, rest) else (false, c :: rest)

/- The largest width or precision of a spec. -/
def maxCount : Nat :=
  2147483647

/-
  Read the longest run of ASCII digits as a number, if there
  is any digit; a number that is too large is refused.
-/
def takeCount
    (text : Text) :
    Option (Option Nat × Text) :=
  let digits := text.takeWhile Char.isDigit
  let rest := text.dropWhile Char.isDigit
  let count := Text.digitsValue digits
  if digits.isEmpty then
    some (none, rest)
  else if count ≤ maxCount then
    some (some count, rest)
  else
    none

/- Read a separator for groups of digits. -/
def takeGrouping
    (text : Text) :
    Option Char × Text :=
  match text with
  | [] => (none, [])
  | c :: rest =>
      if c = ',' ∨ c = '_' then
        (some c, rest)
      else
        (none, c :: rest)

/- Read a point and the number that has to follow it. -/
def takePrecision
    (text : Text) :
    Option (Option Nat × Text) :=
  match text with
  | '.' :: rest => do
      let (count, rest) ← takeCount rest
      let precision ← count
      return (some precision, rest)
  | _ => some (none, text)

/- Read one last character. -/
def takeCode
    (text : Text) :
    Option (Option Char) :=
  match text with
  | [] => some none
  | [code] => some (some code)
  | _ => none

end Spec

end LogLine

------------------------------------------------------------
-- Reading and Writing Specs
------------------------------------------------------------

namespace LogLine

namespace Spec

/- The spec that a text gives, if it gives one. -/
def parse?
    (text : Text) :
    Option Spec := do
  let ((fill, align), text) := takeAlign text
  let (sign, text) := takeSign text
  let (alternate, text) := takeFlag '#' text
  let (zero, text) := takeFlag '0' text
  let (width, text) ← takeCount text
  let (grouping, text) := takeGrouping text
  let (precision, text) ← takePrecision text
  let code ← takeCode text
  return {
    fill, align, sign, alternate, zero,
    width, grouping, precision, code }

/- The spec that a text gives, or the text itself as the fault. -/
def parse
    (text : Text) :
    Except FormatError Spec :=
  match parse? text with
  | some spec => .ok spec
  | none => .error (.invalidSpec text)

theorem parse_eq_ok_iff
    {text : Text}
    {spec : Spec} :
    parse text = .ok spec ↔ parse? text = some spec := by
  unfold parse
  cases parse? text with
  | none => simp
  | some found => simp

theorem parse_eq_error_iff
    {text : Text}
    {failure : FormatError} :
    parse text = .error failure ↔
      failure = .invalidSpec text ∧ parse? text = none := by
  unfold parse
  cases parse? text with
  | none => simp [eq_comm]
  | some found => simp

/- A spec in the order of the grammar. -/
def write
    (spec : Spec) :
    Text :=
  spec.fill.toList ++
  (spec.align.map Align.toChar).toList ++
  (spec.sign.map Sign.toChar).toList ++
  (if spec.alternate then ['#'] else []) ++
  (if spec.zero then ['0'] else []) ++
  (match spec.width with
    | some width => Text.ofNat width
    | none => []) ++
  spec.grouping.toList ++
  (match spec.precision with
    | some precision => '.' :: Text.ofNat precision
    | none => []) ++
  spec.code.toList

end Spec

end LogLine
