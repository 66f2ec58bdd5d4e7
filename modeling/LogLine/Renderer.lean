import LogLine.Inspection
import LogLine.Palette
import LogLine.Template.Marker
import LogLine.Template.Rendering
import LogLine.Time.Pattern

/-
  Renderers: records as lines, with or without colour.

  Key definitions include:
    * `LogLine.Renderer`
    * `LogLine.Renderer.select`
    * `LogLine.Renderer.substitutions`
    * `LogLine.Renderer.render`
    * `LogLine.appendBlock`

  A line is the template of the record's level with the values
  of the record filled in, followed by the text of a failure
  and by a stack, each of them on lines of its own.
-/

------------------------------------------------------------
-- Renderers
------------------------------------------------------------

namespace LogLine

/-
  The templates of every level and all else that is fixed for
  lines.  Whether the stream shows colour is decided once, at
  the latest before the first line.
-/
structure Renderer where
  /- The templates with markers. -/
  color : Level → Template
  /- The templates without markers, where there are any. -/
  backup : Option (Level → Option Template)
  palettes : Dict Palette
  defaults : Dict Value
  datePattern : Option Text
  forceColor : Bool
  supportsColor : Option Bool
  timeFormatter : TimeFormatter

namespace Renderer

/-
  Decide whether the stream shows colour.  Only the first
  decision counts; the answer tells whether this one did.
-/
def decideColor
    (renderer : Renderer)
    (supported : Bool) :
    Bool × Renderer :=
  match renderer.supportsColor with
  | some _ => (false, renderer)
  | none => (true, { renderer with supportsColor := supported })

/- Whether lines carry colour, once that is decided. -/
def colorMode
    (renderer : Renderer) :
    Except RenderError Bool :=
  match renderer.supportsColor with
  | some supported => .ok (renderer.forceColor || supported)
  | none => .error .undecidedColor

end Renderer

end LogLine

------------------------------------------------------------
-- Templates of Levels
------------------------------------------------------------

namespace LogLine

namespace Renderer

/- The template for a level with colour on or off. -/
def templateFor
    (renderer : Renderer)
    (color : Bool)
    (level : Level) :
    Template :=
  if color then
    renderer.color level
  else
    match renderer.backup with
    | none => renderer.color level
    | some backup => (backup level).getD (renderer.color level)

/- The template that records of a level are written with. -/
def select
    (renderer : Renderer)
    (level : Level) :
    Except RenderError Template := do
  let color ← renderer.colorMode
  return renderer.templateFor color level

end Renderer

end LogLine

------------------------------------------------------------
-- Values of Names
------------------------------------------------------------

namespace LogLine

namespace Renderer

/- Markers without colour, and no value for intrinsic names. -/
def baseline
    (renderer : Renderer) :
    List (Text × Value) :=
  (intrinsicNames ++ renderer.defaults.keys).flatMap
    (fun name =>
      [(enterMarker name, .str []), (exitMarker name, .str [])])
  ++ intrinsicNames.map (fun name => (name, .none))

/- The markers of the palettes at a level. -/
def paletteMarkers
    (renderer : Renderer)
    (level : Level) :
    List (Text × Value) :=
  renderer.palettes.entries.flatMap fun (field, palette) =>
    [(enterMarker field, .str (palette.enter level)),
     (exitMarker field, .str (palette.exit level))]

end Renderer

/- What a record gives: extras, then attributes over them. -/
def Record.fields
    (record : Record) :
    List (Text × Value) :=
  record.extras.entries ++
    intrinsicNames.filterMap fun name =>
      (record.field? name).map (fun value => (name, value))

namespace Renderer

/- The values for the names of a template, in layers. -/
def table
    (renderer : Renderer)
    (level : Level)
    (record : Record)
    (color : Bool) :
    Dict Value :=
  Dict.ofList
    (renderer.baseline ++
      (if color then renderer.paletteMarkers level else []) ++
      renderer.defaults.entries ++
      record.fields)

/- The values that a record is filled into a template with. -/
def substitutions
    (renderer : Renderer)
    (level : Level)
    (record : Record) :
    Except RenderError (Dict Value) := do
  let color ← renderer.colorMode
  return renderer.table level record color

end Renderer

end LogLine

------------------------------------------------------------
-- Lines
------------------------------------------------------------

namespace LogLine

/- Put a block behind a text, on a line of its own. -/
def appendBlock
    (text block : Text) :
    Text :=
  if block = [] then
    text
  else if text.endsIn '\n' then
    text ++ block
  else
    text ++ '\n' :: block

namespace Renderer

/- The text of a failure in its colour. -/
def paintFailure
    (renderer : Renderer)
    (level : Level)
    (color : Bool)
    (text : Text) :
    Text :=
  match renderer.palettes.get? Attribute.failureText.fieldName with
  | some palette =>
      if color then palette.paint level text else text
  | none => text

/- The record with the text of its time, if a template needs it. -/
def withTime
    (renderer : Renderer)
    (template : Template)
    (record : Record) :
    Record :=
  if template.references Attribute.timeText.fieldName then
    (record.timeTextWith fun created =>
      renderer.timeFormatter created renderer.datePattern).2
  else
    record

/-
  The line of a record, and the record with the texts that
  were made for it.  A failure gives no text at all.
-/
def render
    (renderer : Renderer)
    (record : Record) :
    Except RenderError Text × Record :=
  match renderer.colorMode with
  | .error failure => (.error failure, record)
  | .ok color =>
      let template := renderer.templateFor color record.level
      let record := renderer.withTime template record
      let table := renderer.table record.level record color
      match template.render table.get? with
      | .error failure => (.error failure, record)
      | .ok line =>
          let (text, record) :=
            record.failureTextWith
              (renderer.paintFailure record.level color)
          let line := appendBlock line (text.getD [])
          (.ok (appendBlock line (record.stackInfo.getD [])),
            record)

/- A renderer by the values that tell it from others. -/
def inspect
    (renderer : Renderer) :
    Text :=
  Inspect.record "Renderer"
    [("templates",
       Inspect.list Text.escaped
         (Level.all.map fun level =>
           (renderer.color level).source)),
     ("palettes",
       Inspect.list Text.escaped renderer.palettes.keys),
     ("defaults", Inspect.dict Value.inspect renderer.defaults),
     ("datefmt",
       Inspect.option Text.escaped renderer.datePattern),
     ("force_color", Inspect.bool renderer.forceColor),
     ("supports_color",
       Inspect.option Inspect.bool renderer.supportsColor)]
    true

end Renderer

end LogLine
