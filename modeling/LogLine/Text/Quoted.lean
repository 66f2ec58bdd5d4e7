import LogLine.Text

/-
  Text between quotes with escapes, and reading it back.

  Key definitions include:
    * `LogLine.Charset`
    * `LogLine.Text.delimiter`
    * `LogLine.Text.quoted`
    * `LogLine.Text.unquoted?`

  The quote is the single one, unless the text holds a single
  quote and no double one.
-/

------------------------------------------------------------
-- Writing
------------------------------------------------------------

namespace LogLine

/- The characters that may stand unescaped between quotes. -/
inductive Charset where
  | unicode
  | ascii
deriving DecidableEq, Repr

/- The quote that a text is put between. -/
def Text.delimiter
    (text : Text) :
    Char :=
  if '\'' ∈ text ∧ '"' ∉ text then '"' else '\''

/- A backslash, a letter, and a code point in hexadecimal. -/
def hexEscape
    (letter : Char)
    (width : Nat)
    (c : Char) :
    Text :=
  '\\' :: letter ::
    Text.zeroPadded width (Nat.toDigits 16 c.toNat)

/- A character as it stands between two `delimiter`s. -/
def quotedChar
    (charset : Charset)
    (delimiter : Char)
    (c : Char) :
    Text :=
  if c = '\\' then
    ['\\', '\\']
  else if c = '\n' then
    ['\\', 'n']
  else if c = '\r' then
    ['\\', 'r']
  else if c = '\t' then
    ['\\', 't']
  else if c = delimiter then
    ['\\', c]
  else if c.toNat < 0x20 ∨ c.toNat = 0x7f then
    hexEscape 'x' 2 c
  else if charset = .ascii ∧ 0x80 ≤ c.toNat then
    if c.toNat ≤ 0xff then
      hexEscape 'x' 2 c
    else if c.toNat ≤ 0xffff then
      hexEscape 'u' 4 c
    else
      hexEscape 'U' 8 c
  else
    [c]

/- A text between quotes. -/
def Text.quoted
    (charset : Charset)
    (text : Text) :
    Text :=
  let delimiter := text.delimiter
  delimiter ::
    text.flatMap (quotedChar charset delimiter) ++ [delimiter]

end LogLine

------------------------------------------------------------
-- Reading
------------------------------------------------------------

namespace LogLine

/- The value of a hexadecimal digit in lower case. -/
def hexDigit?
    (c : Char) :
    Option Nat :=
  if '0' ≤ c ∧ c ≤ '9' then
    some (c.toNat - '0'.toNat)
  else if 'a' ≤ c ∧ c ≤ 'f' then
    some (c.toNat - 'a'.toNat + 10)
  else
    none

/- The value of hexadecimal digits, the first one highest. -/
def hexValue?
    (digits : Text) :
    Option Nat :=
  digits.foldlM
    (fun value c => (hexDigit? c).map (16 * value + ·)) 0

/- The character with the code point that digits give. -/
def hexChar?
    (digits : Text) :
    Option Char :=
  (hexValue? digits).bind fun n =>
    if n.isValidChar then some (Char.ofNat n) else none

/- The text in front of a closing quote, its escapes resolved. -/
def unescaped?
    (delimiter : Char) :
    Text → Option Text
  | [] => none
  | '\\' :: 'x' :: a :: b :: rest => do
      let c ← hexChar? [a, b]
      let tail ← unescaped? delimiter rest
      return c :: tail
  | '\\' :: 'u' :: a :: b :: c :: d :: rest => do
      let c ← hexChar? [a, b, c, d]
      let tail ← unescaped? delimiter rest
      return c :: tail
  | '\\' :: 'U' :: a :: b :: c :: d ::
      e :: f :: g :: h :: rest => do
      let c ← hexChar? [a, b, c, d, e, f, g, h]
      let tail ← unescaped? delimiter rest
      return c :: tail
  | '\\' :: 'n' :: rest =>
      (unescaped? delimiter rest).map ('\n' :: ·)
  | '\\' :: 'r' :: rest =>
      (unescaped? delimiter rest).map ('\r' :: ·)
  | '\\' :: 't' :: rest =>
      (unescaped? delimiter rest).map ('\t' :: ·)
  | '\\' :: c :: rest =>
      if c = '\\' ∨ c = delimiter then
        (unescaped? delimiter rest).map (c :: ·)
      else
        none
  | c :: rest =>
      if c = delimiter then
        if rest = [] then some [] else none
      else
        (unescaped? delimiter rest).map (c :: ·)

/- The text that stands between quotes. -/
def Text.unquoted? : Text → Option Text
  | [] => none
  | delimiter :: rest =>
      if delimiter = '\'' ∨ delimiter = '"' then
        unescaped? delimiter rest
      else
        none

end LogLine
