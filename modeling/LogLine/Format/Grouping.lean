import LogLine.Text

/-
  Separators between groups of digits.

  Key definitions include:
    * `LogLine.groupDigits`
    * `LogLine.groupWhole`
-/

------------------------------------------------------------
-- Grouping
------------------------------------------------------------

namespace LogLine

/-
  Put a separator in front of every digit, other than the
  first, with a multiple of `size` digits from it on.
-/
def groupDigits
    (separator : Char)
    (size : Nat)
    (digits : Text) :
    Text :=
  match digits with
  | [] => []
  | [d] => [d]
  | d :: e :: rest =>
      if (e :: rest).length % size = 0 then
        d :: separator :: groupDigits separator size (e :: rest)
      else
        d :: groupDigits separator size (e :: rest)

/-
  Group the leading digits of a number by three; what follows
  them stays as it is.
-/
def groupWhole
    (separator : Char)
    (number : Text) :
    Text :=
  groupDigits separator 3 (number.takeWhile Char.isDigit) ++
    number.dropWhile Char.isDigit

end LogLine
