import LogLine.Text.Escaped
import LogLine.Text.Dict
import LogLine.Record
import LogLine.Time.Pattern

/-
  Texts that show how a value is made up, for people who look
  for faults.

  Key definitions include:
    * `LogLine.Inspect`
    * `LogLine.Inspect.record`
    * `LogLine.inspectionLayout`
    * `LogLine.Record.inspect`
-/

------------------------------------------------------------
-- Shapes
------------------------------------------------------------

namespace LogLine

namespace Inspect

/- Texts between brackets, with commas between them. -/
def enclosed
    (opening : Text)
    (texts : List Text)
    (closing : Text) :
    Text :=
  opening ++ Text.joined [',', ' '] texts ++ closing

/- A constructor with one argument. -/
def application
    (constructor : String)
    (argument : Text) :
    Text :=
  enclosed (constructor.toList ++ ['(']) [argument] [')']

/- A value that may be absent. -/
def option
    {α : Type}
    (inspect : α → Text) :
    Option α → Text
  | none => "None".toList
  | some value => application "Some" (inspect value)

/- A list of values. -/
def list
    {α : Type}
    (inspect : α → Text)
    (values : List α) :
    Text :=
  enclosed ['['] (values.map inspect) [']']

/- A map from texts. -/
def dict
    {α : Type}
    (inspect : α → Text)
    (values : Dict α) :
    Text :=
  enclosed ['{']
    (values.entries.map fun (key, value) =>
      key.escaped ++ [':', ' '] ++ inspect value)
    ['}']

def bool
    (value : Bool) :
    Text :=
  (toString value).toList

/- A record by its fields; `partly` says that it has others. -/
def record
    (name : String)
    (fields : List (String × Text))
    (partly : Bool) :
    Text :=
  let shown := fields.map fun (field, text) =>
    field.toList ++ [':', ' '] ++ text
  let shown := if partly then shown ++ [['.', '.']] else shown
  enclosed (name.toList ++ [' ', '{', ' ']) shown [' ', '}']

end Inspect

end LogLine

------------------------------------------------------------
-- Values and Records
------------------------------------------------------------

namespace LogLine

/-
  Inspected floating-point numbers have the positional range
  of values, but no sign and no fill of the exponent.
-/
def inspectionLayout : FloatLayout where
  leastPositional := -4
  greatestPositional := 15
  exponentPlus := false
  exponentWidth := 1
  nan := "NaN".toList

namespace Value

def inspect : Value → Text
  | str text => Inspect.application "Str" text.escaped
  | int n => Inspect.application "Int" (Text.ofInt n.toInt)
  | float x =>
      Inspect.application "Float" (inspectionLayout.write x)
  | none => "None".toList

end Value

end LogLine

namespace LogLine

namespace Record

/- A record by the values that tell it from others. -/
def inspect
    (record : Record) :
    Text :=
  Inspect.record "Record"
    [("name", record.name.escaped),
     ("level", record.level.constructorName.toList),
     ("message", record.message.escaped),
     ("created", record.created.timestampText),
     ("has_exception", Inspect.bool record.failure.isSome),
     ("extras", Inspect.dict Value.inspect record.extras)]
    true

end Record

end LogLine
