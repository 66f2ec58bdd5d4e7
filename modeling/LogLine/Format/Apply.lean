import LogLine.Format.Number

/-
  Values under a format spec.

  Key definitions include:
    * `LogLine.Spec.textBody`
    * `LogLine.Spec.body`
    * `LogLine.Spec.apply`
-/

------------------------------------------------------------
-- Applying a Spec
------------------------------------------------------------

namespace LogLine

namespace Spec

/- A text under a spec, without padding; a precision cuts it. -/
def textBody
    (spec : Spec)
    (text : Text) :
    Except FormatError Body := do
  match spec.code with
  | none | some 's' => pure ()
  | some code => throw (.unknownCode code .str)
  if spec.sign.isSome then
    throw (.notAllowedForText .sign)
  if spec.alternate then
    throw (.notAllowedForText .alternateForm)
  if spec.align = some .afterSign then
    throw (.notAllowedForText .afterSignAlignment)
  if let some separator := spec.grouping then
    throw (.groupingWithCode separator 's')
  return ⟨[], text.take (spec.precision.getD text.length), false⟩

/- A value under a spec, without padding. -/
def body
    (spec : Spec) :
    Value → Except FormatError Body
  | .str text => spec.textBody text
  | .none => spec.textBody Value.none.display
  | .int n => spec.integerBody n
  | .float x => spec.floatBody x

/- A value under a spec. -/
def apply
    (spec : Spec)
    (value : Value) :
    Except FormatError Text :=
  (spec.body value).map spec.pad

end Spec

end LogLine
