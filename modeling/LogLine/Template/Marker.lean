import LogLine.Template.Tokenizer

/-
  Colour markers.  A span of a template that can take colour
  stands between two marker fields, which are named after a
  field and hold nothing or an escape sequence.

  Key definitions include:
    * `LogLine.enterMarker`
    * `LogLine.exitMarker`
    * `LogLine.Field.role`
    * `LogLine.Markup`
    * `LogLine.compile`
    * `LogLine.stripColor`

  In raw templates,

    {enter} ... {exit}   is one span, named after the first
                         field inside that takes colour,
    {field}              outside of a group is a span alone,
    {_field}             is `field` without markers,
    {}                   is a positional field, kept as it is.
-/

------------------------------------------------------------
-- Marker Names
------------------------------------------------------------

namespace LogLine

/- The last character of an enter marker (STX). -/
def enterSuffix : Char :=
  '\x02'

/- The last character of an exit marker (ETX). -/
def exitSuffix : Char :=
  '\x03'

/- The marker in front of the span named after `field`. -/
def enterMarker
    (field : Text) :
    Text :=
  field ++ [enterSuffix]

/- The marker behind the span named after `field`. -/
def exitMarker
    (field : Text) :
    Text :=
  field ++ [exitSuffix]

/- Whether a name is that of a marker. -/
def isMarker
    (name : Text) :
    Bool :=
  name.endsIn enterSuffix || name.endsIn exitSuffix

@[simp]
theorem isMarker_enterMarker
    (field : Text) :
    isMarker (enterMarker field) = true := by
  simp [isMarker, enterMarker, Text.endsIn]

@[simp]
theorem isMarker_exitMarker
    (field : Text) :
    isMarker (exitMarker field) = true := by
  simp [isMarker, exitMarker, Text.endsIn]

theorem enterMarker_injective
    {first second : Text}
    (hSame : enterMarker first = enterMarker second) :
    first = second :=
  List.append_cancel_right hSame

theorem exitMarker_injective
    {first second : Text}
    (hSame : exitMarker first = exitMarker second) :
    first = second :=
  List.append_cancel_right hSame

theorem enterMarker_ne_exitMarker
    (first second : Text) :
    enterMarker first ≠ exitMarker second := by
  intro hSame
  have hLast := congrArg List.getLast? hSame
  unfold enterMarker exitMarker at hLast
  rw [List.getLast?_concat, List.getLast?_concat] at hLast
  exact absurd hLast (by decide)

/- The name of the field that opens a group. -/
def enterName : Text :=
  "enter".toList

/- The name of the field that closes a group. -/
def exitName : Text :=
  "exit".toList

end LogLine

------------------------------------------------------------
-- Roles of Fields
------------------------------------------------------------

namespace LogLine

/- What a field of a raw template stands for. -/
inductive Role where
  /- A field without a name. -/
  | positional
  /- A field that takes no colour, and its bare name. -/
  | unmarked (bare : Text)
  /- The opening of a group. -/
  | enter
  /- The end of a group. -/
  | exit
  /- A field that takes colour. -/
  | marked
deriving DecidableEq, Repr

namespace Role

/- The role of a name. -/
def ofName
    (name : Text) :
    Role :=
  match name with
  | [] => positional
  | '_' :: bare => unmarked bare
  | _ =>
      if name = enterName then
        enter
      else if name = exitName then
        exit
      else
        marked

end Role

/- The role of a field. -/
def Field.role
    (field : Field) :
    Role :=
  Role.ofName field.name

end LogLine

------------------------------------------------------------
-- Groups
------------------------------------------------------------

namespace LogLine

/- Why a raw template cannot be given markers. -/
inductive CompileError where
  | malformed (violation : SyntaxError)
  /- A group opens inside of a group. -/
  | nestedGroup
  /- A group ends that was not opened. -/
  | unmatchedExit
  /- A group ends without a field that names it. -/
  | emptyGroup
  /- The template ends inside of a group. -/
  | unterminatedGroup
deriving DecidableEq, Repr

namespace CompileError

def message : CompileError → String
  | malformed violation => violation.message
  | nestedGroup =>
      "new \x7benter\x7d found before previous " ++
        "\x7benter\x7d was closed"
  | unmatchedExit =>
      "\x7bexit\x7d used before \x7benter\x7d"
  | emptyGroup =>
      "\x7bexit\x7d used without a contained field; put at " ++
        "least one field between \x7benter\x7d and \x7bexit\x7d"
  | unterminatedGroup =>
      "unterminated \x7benter\x7d/\x7bexit\x7d group"

end CompileError

/-
  Where the reading of groups stands.  A pending group has no
  name yet; `inside` is what was written since it opened.
-/
inductive Group where
  | closed
  | pending (enter : Field) (inside : Text)
  | bound (name : Text)
deriving DecidableEq, Repr

/-
  A template while it gets its markers: what is written for
  good, and the group that is open.
-/
structure Markup where
  written : Text
  group : Group
deriving DecidableEq, Repr

namespace Markup

/- Nothing is written and no group is open. -/
def start : Markup :=
  ⟨[], .closed⟩

/- Write text that takes part in no naming. -/
def put
    (markup : Markup)
    (text : Text) :
    Markup :=
  match markup.group with
  | .pending enter inside =>
      ⟨markup.written, .pending enter (inside ++ text)⟩
  | group => ⟨markup.written ++ text, group⟩

/- Open a group. -/
def openGroup
    (markup : Markup)
    (enter : Field) :
    Except CompileError Markup :=
  match markup.group with
  | .closed => .ok ⟨markup.written, .pending enter []⟩
  | _ => .error .nestedGroup

/- Close the open group. -/
def closeGroup
    (markup : Markup)
    (exit : Field) :
    Except CompileError Markup :=
  match markup.group with
  | .closed => .error .unmatchedExit
  | .pending _ _ => .error .emptyGroup
  | .bound name =>
      .ok ⟨markup.written ++ exit.writeRenamed (exitMarker name),
        .closed⟩

/- Write a field that takes colour. -/
def putMarked
    (markup : Markup)
    (field : Field) :
    Markup :=
  match markup.group with
  | .closed =>
      ⟨markup.written ++
        Field.write (enterMarker field.name) none none ++
        field.display ++
        Field.write (exitMarker field.name) none none,
        .closed⟩
  | .pending enter inside =>
      ⟨markup.written ++
        enter.writeRenamed (enterMarker field.name) ++
        inside ++ field.display,
        .bound field.name⟩
  | .bound name => ⟨markup.written ++ field.display, .bound name⟩

/- Write the next token. -/
def step
    (markup : Markup) :
    Token → Except CompileError Markup
  | .literal text => .ok (markup.put (escapeBraces text))
  | .field field =>
      match field.role with
      | .positional => .ok (markup.put (field.writeRenamed []))
      | .unmarked bare => .ok (markup.put (field.writeRenamed bare))
      | .enter => markup.openGroup field
      | .exit => markup.closeGroup field
      | .marked => .ok (markup.putMarked field)

/- The whole text, provided that no group is open. -/
def finish
    (markup : Markup) :
    Except CompileError Text :=
  match markup.group with
  | .closed => .ok markup.written
  | _ => .error .unterminatedGroup

end Markup

end LogLine

------------------------------------------------------------
-- Adding and Removing Markers
------------------------------------------------------------

namespace LogLine

/-
  A raw template with markers in place of its group fields
  and around its other fields.  The leftmost fault is the one
  reported.
-/
def compile
    (raw : Text) :
    Except CompileError Text := do
  let read := scan raw
  let markup ← read.tokens.foldlM Markup.step Markup.start
  match read.violation with
  | some violation => .error (.malformed violation)
  | none => markup.finish

/- A token without colour: nothing for markers and groups. -/
def Token.plain : Token → Text
  | .literal text => escapeBraces text
  | .field f =>
      if f.name = enterName ∨ f.name = exitName ∨
          isMarker f.name then
        []
      else
        f.writeRenamed (f.name.dropInitial '_')

/- A template without markers, groups and underscores. -/
def stripColor
    (raw : Text) :
    Except SyntaxError Text :=
  match (scan raw).violation with
  | some violation => .error violation
  | none => .ok ((scan raw).tokens.map Token.plain).flatten

end LogLine
