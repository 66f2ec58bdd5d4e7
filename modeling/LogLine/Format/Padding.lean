import LogLine.Format.Spec

/-
  Filling a formatted value up to the width of its field.

  Key definitions include:
    * `LogLine.Spec.padChar`
    * `LogLine.Spec.padAlign`
    * `LogLine.Spec.pad`
-/

------------------------------------------------------------
-- Padding
------------------------------------------------------------

namespace LogLine

/-
  A formatted value: the sign and base that padding may part
  from the rest, and the side that it stands on by itself.
-/
structure Body where
  lead : Text
  text : Text
  numeric : Bool
deriving DecidableEq, Repr

namespace Body

/- The formatted value without padding. -/
def unpadded
    (body : Body) :
    Text :=
  body.lead ++ body.text

end Body

namespace Spec

/- The character that fills a field. -/
def padChar
    (spec : Spec) :
    Char :=
  spec.fill.getD (if spec.zero then '0' else ' ')

/-
  Where a value stands in its field.  By themselves numbers
  stand on the right, with zeros behind their sign, and all
  else on the left.
-/
def padAlign
    (spec : Spec)
    (numeric : Bool) :
    Align :=
  spec.align.getD
    (if numeric then
      if spec.zero then .afterSign else .right
    else
      .left)

/- A formatted value in its field; it is never cut. -/
def pad
    (spec : Spec)
    (body : Body) :
    Text :=
  let missing :=
    spec.width.getD 0 - (body.lead.length + body.text.length)
  let filling (n : Nat) : Text := List.replicate n spec.padChar
  match spec.padAlign body.numeric with
  | .left => body.lead ++ body.text ++ filling missing
  | .right => filling missing ++ body.lead ++ body.text
  | .center =>
      filling (missing / 2) ++ body.lead ++ body.text ++
        filling (missing - missing / 2)
  | .afterSign => body.lead ++ filling missing ++ body.text

end Spec

end LogLine
