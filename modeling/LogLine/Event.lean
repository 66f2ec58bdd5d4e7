import LogLine.Record

/-
  Events as programs emit them, and the records made of them.

  Key definitions include:
    * `LogLine.EventValue`
    * `LogLine.Event`
    * `LogLine.Record.ofEvent`
-/

------------------------------------------------------------
-- Events
------------------------------------------------------------

namespace LogLine

/- A value that a program gives to an event under a name. -/
inductive EventValue where
  | text (text : Text)
  | int (n : Int)
  | float (x : Binary64)
  | bool (value : Bool)
  | char (c : Char)
  /- A value that is known by how it shows itself only. -/
  | shown (text : Text)
  | null
deriving DecidableEq

namespace EventValue

/-
  The value of a field.  An integer that does not fit an
  integer value is a text, and so is all that is no number.
-/
def toValue : EventValue → Value
  | text t => .str t
  | int n =>
      if Value.fitsInt n then
        .int (Int64.ofInt n)
      else
        .str (Text.ofInt n)
  | float x => .float x
  | bool value => .ofString (toString value)
  | char c => .str [c]
  | shown t => .str t
  | null => .str Value.none.display

end EventValue

/- One event, with the time and the thread that it comes from. -/
structure Event where
  target : Text
  level : EventLevel
  message : Text
  file : Option Text
  line : Option Nat
  module : Option Text
  values : List (Text × EventValue)
  created : Instant
  threadName : Option Text
  origin : Origin
deriving DecidableEq

/- The record of an event; its target is the name. -/
def Record.ofEvent
    (event : Event) :
    Record :=
  { Record.ofMessage event.level.severity event.target
      event.message event.created with
    pathName := event.file
    module := event.module
    lineNumber := event.line
    threadName := event.threadName
    origin := event.origin
    extras := Dict.ofList
      (event.values.map fun (key, value) =>
        (key, value.toValue)) }

end LogLine
