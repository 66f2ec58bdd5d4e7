import LogLine.Renderer
import LogLine.Template.Validation

/-
  Settings of a renderer, checked as a whole before a renderer
  is made of them.

  Key definitions include:
    * `LogLine.Settings`
    * `LogLine.SetupError`
    * `LogLine.Settings.build`
    * `LogLine.Settings.standard`
-/

------------------------------------------------------------
-- Settings
------------------------------------------------------------

namespace LogLine

/-
  All that can be set for lines.  Backup templates are for
  streams without colour; they are derived from the templates
  if there are none and `deriveBackup` holds.
-/
structure Settings where
  templates : LevelMap Text
  backups : Option (LevelMap Text)
  deriveBackup : Bool
  datePattern : Option Text
  defaults : Dict Value
  forceColor : Bool
  palettes : Dict (LevelMap Color)
  timeFormatter : TimeFormatter
  supportsColor : Option Bool

namespace Settings

/- No templates, no colours, and backups derived. -/
def blank : Settings where
  templates := LevelMap.empty
  backups := none
  deriveBackup := true
  datePattern := none
  defaults := Dict.empty
  forceColor := false
  palettes := Dict.empty
  timeFormatter := formatTime
  supportsColor := none

end Settings

/- Why settings do not make a renderer. -/
inductive SetupError where
  /- A level without a template. -/
  | incompleteTemplates (level : Level)
  | validation
      (slot : Slot)
      (raw : Text)
      (fault : ValidationError)
  | compile
      (slot : Slot)
      (raw : Text)
      (fault : CompileError)
  | template
      (slot : Slot)
      (raw : Text)
      (fault : ParseError)
  | palette (field : Text) (fault : PaletteError)
  /- Colours for a name that no template can use. -/
  | unknownPaletteField (field : Text)
  | dateFormat (pattern : Text)
deriving DecidableEq, Repr

namespace SetupError

/- A fault of the template in a slot. -/
def templateMessage
    (slot : Slot)
    (raw : Text)
    (fault : String) :
    String :=
  slot.key ++ " template " ++ String.ofList raw.escaped ++
    ": " ++ fault

def message : SetupError → String
  | incompleteTemplates level =>
      "every level needs a template (set a default or provide " ++
        "all five levels); missing: " ++ level.key
  | validation slot raw fault =>
      templateMessage slot raw fault.message
  | compile slot raw fault =>
      templateMessage slot raw fault.message
  | template slot raw fault =>
      templateMessage slot raw fault.message
  | palette field fault =>
      "palette for '" ++ String.ofList field ++ "': " ++
        fault.message
  | unknownPaletteField field =>
      "palette for unknown field '" ++ String.ofList field ++
        "' (no record attribute or default)"
  | dateFormat pattern =>
      "invalid date format: " ++ String.ofList pattern.escaped

end SetupError

end LogLine

------------------------------------------------------------
-- Checking
------------------------------------------------------------

namespace LogLine

namespace Settings

/- Check the templates of all slots. -/
def checkTemplates
    (settings : Settings)
    (templates : LevelMap Text) :
    Except SetupError Unit :=
  templates.slots.forM fun (slot, template) =>
    (validate template intrinsicNames
      settings.defaults.keys).mapError
      (SetupError.validation slot template)

/- The palette of a field that templates can use. -/
def palette
    (settings : Settings)
    (field : Text)
    (colors : LevelMap Color) :
    Except SetupError Palette :=
  if field ∈ intrinsicNames ∨ settings.defaults.contains field then
    (Palette.ofColors colors).mapError (SetupError.palette field)
  else
    .error (.unknownPaletteField field)

/- The palettes of all fields, in the order of their names. -/
def buildPalettes
    (settings : Settings) :
    Except SetupError (Dict Palette) := do
  let palettes ← settings.palettes.entries.mapM
    fun (field, colors) => do
      let palette ← settings.palette field colors
      return (field, palette)
  return Dict.ofList palettes

/- Check that all directives of the date pattern exist. -/
def checkDatePattern
    (settings : Settings) :
    Except SetupError Unit :=
  match settings.datePattern with
  | some pattern =>
      if TimePattern.isValid pattern then
        .ok ()
      else
        .error (.dateFormat pattern)
  | none => .ok ()

end Settings

end LogLine

------------------------------------------------------------
-- Building
------------------------------------------------------------

namespace LogLine

namespace Settings

/- A template from its text with or without markers. -/
def parseTemplate
    (slot : Slot)
    (raw text : Text) :
    Except SetupError Template :=
  (Template.parse text).mapError (SetupError.template slot raw)

/- The template with markers of a slot. -/
def colorTemplate
    (slot : Slot)
    (raw : Text) :
    Except SetupError Template := do
  let compiled ←
    (compile raw).mapError (SetupError.compile slot raw)
  parseTemplate slot raw compiled

/- The template without markers of a slot. -/
def plainTemplate
    (slot : Slot)
    (raw : Text) :
    Except SetupError Template := do
  let stripped ←
    (stripColor raw).mapError fun violation =>
      SetupError.compile slot raw (.malformed violation)
  parseTemplate slot raw stripped

/- The templates that backups are made of, if there are any. -/
def backupSource
    (settings : Settings) :
    Option (LevelMap Text) :=
  match settings.backups with
  | some backups => some backups
  | none =>
      if settings.deriveBackup then
        some settings.templates
      else
        none

/- The templates without markers of all levels. -/
def buildBackup
    (settings : Settings) :
    Except SetupError (Option (Level → Option Template)) := do
  match settings.backupSource with
  | none => return none
  | some raws =>
      let plain ← raws.tryMap plainTemplate
      return some plain.get?

/- The renderer of settings without a fault. -/
def build
    (settings : Settings) :
    Except SetupError Renderer := do
  if let some level := settings.templates.firstMissing? then
    throw (.incompleteTemplates level)
  settings.checkTemplates settings.templates
  if let some backups := settings.backups then
    settings.checkTemplates backups
  let palettes ← settings.buildPalettes
  settings.checkDatePattern
  let compiled ← settings.templates.tryMap colorTemplate
  let color ←
    compiled.resolved.mapError SetupError.incompleteTemplates
  let backup ← settings.buildBackup
  return {
    color, backup, palettes
    defaults := settings.defaults
    datePattern := settings.datePattern
    forceColor := settings.forceColor
    supportsColor := settings.supportsColor
    timeFormatter := settings.timeFormatter }

end Settings

end LogLine

------------------------------------------------------------
-- Standard Settings
------------------------------------------------------------

namespace LogLine

namespace Settings

def standardTemplate : Text :=
  "\x7basctime\x7d \x7blevelname:<8\x7d \x7bname\x7d \x7bmessage\x7d".toList

def standardBackup : Text :=
  ("[\x7basctime\x7d] [\x7blevelname:<8\x7d] " ++
    "\x7bname\x7d: \x7bmessage\x7d").toList

/- One code as the colour of every level. -/
def uniformColor
    (code : String) :
    LevelMap Color :=
  LevelMap.uniform (.code code.toList)

/- The colours of the level names. -/
def levelColors : LevelMap Color :=
  LevelMap.ofLevels
    (.code "32;1".toList)
    (.code "34;1".toList)
    (.code "33;1".toList)
    (.code "31;1".toList)
    (.code "41".toList)

/- The settings that hold where none are given. -/
def standard : Settings :=
  { blank with
    templates := LevelMap.uniform standardTemplate
    backups := some (LevelMap.uniform standardBackup)
    datePattern := some standardPattern
    palettes := Dict.ofList
      [("asctime".toList, uniformColor "30;1"),
       ("levelname".toList, levelColors),
       ("name".toList, uniformColor "35"),
       ("exc_text".toList, uniformColor "31")] }

end Settings

end LogLine
