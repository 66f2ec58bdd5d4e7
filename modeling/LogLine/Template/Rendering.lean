import LogLine.Template.Tokenizer
import LogLine.Format.Apply

/-
  Templates that are ready to be filled in.

  Key definitions include:
    * `LogLine.Template`
    * `LogLine.Template.parse`
    * `LogLine.Template.fieldNames`
    * `LogLine.Template.names`
    * `LogLine.Template.render`

  A spec that holds fields is a template of its own; it is
  filled in first and gives the spec of its field.
-/

------------------------------------------------------------
-- Conversions
------------------------------------------------------------

namespace LogLine

/- What a value is turned into before its spec applies. -/
inductive Conversion where
  | display
  | repr
  | ascii
deriving DecidableEq, Repr

namespace Conversion

def ofChar? : Char → Option Conversion
  | 's' => some display
  | 'r' => some repr
  | 'a' => some ascii
  | _ => none

def apply
    (conversion : Conversion)
    (value : Value) :
    Value :=
  match conversion with
  | display => .str value.display
  | repr => .str value.repr
  | ascii => .str value.ascii

end Conversion

end LogLine

------------------------------------------------------------
-- Failures
------------------------------------------------------------

namespace LogLine

/- Why a text is no template that can be filled in. -/
inductive ParseError where
  | malformed (violation : SyntaxError)
  | format (failure : FormatError)
  | conversion (conversion : Char)
deriving DecidableEq, Repr

namespace ParseError

def message : ParseError → String
  | malformed violation => violation.message
  | format failure => failure.message
  | conversion c => "invalid conversion: " ++ c.toString

end ParseError

/- Why a template cannot be filled in. -/
inductive RenderError where
  /- No value for the name of a field. -/
  | missingField (name : Text)
  | format (failure : FormatError)
  | malformed (violation : SyntaxError)
  /- It is not known whether colour can be shown. -/
  | undecidedColor
deriving DecidableEq, Repr

namespace RenderError

def message : RenderError → String
  | missingField name =>
      "formatting field not found in record: '" ++
        String.ofList name ++ "'"
  | format failure => failure.message
  | malformed violation => violation.message
  | undecidedColor =>
      "color support for the output stream is unresolved; " ++
        "set it before rendering"

/- What is reported for a spec that is no template. -/
def ofParseError : ParseError → RenderError
  | .malformed violation => malformed violation
  | .format failure => format failure
  | .conversion c => format (.invalidSpec ['!', c])

end RenderError

end LogLine

------------------------------------------------------------
-- Templates
------------------------------------------------------------

namespace LogLine

/-
  A piece of a template.  A field whose spec holds fields
  carries what that spec gives as a template; a fault in it
  shows only when the field is filled in.
-/
inductive Segment where
  | literal (text : Text)
  | bare
      (name : Text)
      (conversion : Option Conversion)
  | formatted
      (name : Text)
      (conversion : Option Conversion)
      (spec : Spec)
  | dynamic
      (name : Text)
      (conversion : Option Conversion)
      (source : Text)
      (nested : List Segment)
  | faulty
      (name : Text)
      (conversion : Option Conversion)
      (source : Text)
      (fault : ParseError)

/- A template and the text that it was read from. -/
structure Template where
  source : Text
  segments : List Segment

namespace Segment

/- Put a piece in front; literals that meet become one. -/
def cons
    (segment : Segment)
    (segments : List Segment) :
    List Segment :=
  match segment, segments with
  | literal first, literal second :: rest =>
      literal (first ++ second) :: rest
  | _, _ => segment :: segments

end Segment

/- The conversion of a field, if it has one. -/
def Field.conversion?
    (field : Field) :
    Except ParseError (Option Conversion) :=
  match field.conversion with
  | none => .ok none
  | some c =>
      match Conversion.ofChar? c with
      | some conversion => .ok (some conversion)
      | none => .error (.conversion c)

/- A field as a piece of a template; `parse` reads its spec. -/
def Field.segment
    (field : Field)
    (parse : (spec : Text) → field.spec = some spec →
      Except ParseError (List Segment)) :
    Except ParseError Segment := do
  let conversion ← field.conversion?
  match hSpec : field.spec with
  | none | some [] => return .bare field.name conversion
  | some (c :: rest) =>
      let spec : Text := c :: rest
      if '{' ∈ spec then
        match parse spec hSpec with
        | .ok nested =>
            return .dynamic field.name conversion spec nested
        | .error fault =>
            return .faulty field.name conversion spec fault
      else
        match Spec.parse spec with
        | .ok parsed =>
            return .formatted field.name conversion parsed
        | .error failure => throw (.format failure)

/- The pieces of a template, literals in one. -/
def parseSegments
    (source : Text) :
    Except ParseError (List Segment) := do
  let pieces ← (scan source).tokens.attach.mapM
    fun ⟨token, hMem⟩ =>
      match token with
      | .literal text => .ok (Segment.literal text)
      | .field field =>
          field.segment fun spec hSpec =>
            have : spec.length < source.length :=
              spec_length_lt hMem hSpec
            parseSegments spec
  match (scan source).violation with
  | some violation => .error (.malformed violation)
  | none => .ok (pieces.foldr Segment.cons [])
termination_by source.length

namespace Template

/- Read a template. -/
def parse
    (source : Text) :
    Except ParseError Template :=
  (parseSegments source).map (fun segments => ⟨source, segments⟩)

end Template

end LogLine

------------------------------------------------------------
-- Names
------------------------------------------------------------

namespace LogLine

namespace Segment

/- The name of a piece that is a field. -/
def name? : Segment → Option Text
  | literal _ => none
  | bare name _ => some name
  | formatted name _ _ => some name
  | dynamic name _ _ _ => some name
  | faulty name _ _ _ => some name

end Segment

mutual

/- The names of a piece, also of the fields inside of its spec. -/
def Segment.names : Segment → List Text
  | .literal _ => []
  | .bare name _ => [name]
  | .formatted name _ _ => [name]
  | .dynamic name _ _ nested => name :: namesOf nested
  | .faulty name _ _ _ => [name]

/- The names of all fields, also of those inside of specs. -/
def namesOf : List Segment → List Text
  | [] => []
  | segment :: rest => segment.names ++ namesOf rest

end

namespace Template

/- The names of the fields in order of appearance. -/
def fieldNames
    (template : Template) :
    List Text :=
  template.segments.filterMap Segment.name?

/- Whether a field has exactly this name. -/
def references
    (template : Template)
    (name : Text) :
    Bool :=
  template.fieldNames.contains name

/- The names of all fields, also of those inside of specs. -/
def names
    (template : Template) :
    List Text :=
  namesOf template.segments

end Template

end LogLine

------------------------------------------------------------
-- Filling In
------------------------------------------------------------

namespace LogLine

/- The values of names. -/
abbrev Lookup :=
  Text → Option Value

namespace Lookup

/- The value for a field, converted. -/
def valueFor
    (lookup : Lookup)
    (name : Text)
    (conversion : Option Conversion) :
    Except RenderError Value :=
  match lookup name with
  | none => .error (.missingField name)
  | some value =>
      match conversion with
      | none => .ok value
      | some conversion => .ok (conversion.apply value)

end Lookup

/- A failure to format as a failure to fill in. -/
def liftFormat
    (result : Except FormatError Text) :
    Except RenderError Text :=
  result.mapError RenderError.format

mutual

/- Fill in one piece; a spec that holds fields comes first. -/
def Segment.fill
    (lookup : Lookup) :
    Segment → Except RenderError Text
  | .literal text => .ok text
  | .bare name conversion => do
      let value ← lookup.valueFor name conversion
      return value.display
  | .formatted name conversion spec => do
      let value ← lookup.valueFor name conversion
      liftFormat (spec.apply value)
  | .dynamic name conversion _ nested => do
      let value ← lookup.valueFor name conversion
      let specText ← renderSegments lookup nested
      liftFormat (do
        let spec ← Spec.parse specText
        spec.apply value)
  | .faulty name conversion _ fault => do
      let _ ← lookup.valueFor name conversion
      throw (RenderError.ofParseError fault)

/- Fill in the pieces from left to right. -/
def renderSegments
    (lookup : Lookup) :
    List Segment → Except RenderError Text
  | [] => .ok []
  | segment :: rest => do
      let text ← segment.fill lookup
      let behind ← renderSegments lookup rest
      return text ++ behind

end

namespace Template

/- Fill in a template; on a failure there is no text at all. -/
def render
    (template : Template)
    (lookup : Lookup) :
    Except RenderError Text :=
  renderSegments lookup template.segments

end Template

end LogLine
