import LogLine.Event
import LogLine.Settings
import LogLine.Sink

/-
  Loggers: events of a target become lines on a sink.

  Key definitions include:
    * `LogLine.LoggerSetup`
    * `LogLine.Logger`
    * `LogLine.Logger.accepts`
    * `LogLine.Logger.log`
    * `LogLine.Registry`
    * `LogLine.Registry.install`
    * `LogLine.Registry.log`
-/

------------------------------------------------------------
-- Loggers
------------------------------------------------------------

namespace LogLine

/- Writes the events of a target from a level on. -/
structure Logger where
  target : Text
  level : Level
  renderer : Renderer
  sink : Sink

/- The target of the library's own events, which are not logged. -/
def ownTarget : Text :=
  "tintlog".toList

/- What separates a target from those below it. -/
def targetSeparators : List Text :=
  [[':', ':'], ['.']]

/- Whether a target is another one with a path behind it. -/
def isBelow
    (parent : Text)
    (separators : List Text)
    (target : Text) :
    Bool :=
  match parent.isPrefixOf? target with
  | some rest =>
      separators.any (fun separator => separator.isPrefixOf rest)
  | none => false

namespace Logger

/- The filter of events that covers the logger's level. -/
def filter
    (logger : Logger) :
    LevelFilter :=
  logger.level.filter

/- Whether events of a target are written. -/
def acceptsTarget
    (logger : Logger)
    (target : Text) :
    Bool :=
  if target = ownTarget ∨
      isBelow ownTarget [[':', ':']] target then
    false
  else
    logger.target.isEmpty || target == logger.target ||
      isBelow logger.target targetSeparators target

/- Whether events of a level and a target are written. -/
def accepts
    (logger : Logger)
    (level : EventLevel)
    (target : Text) :
    Bool :=
  logger.level.rank ≤ level.severity.rank &&
    logger.acceptsTarget target

/- What is reported for a line that could not be written. -/
def reportUnwritten
    (fault : Text) :
    Text :=
  "tintlog: failed to write record: ".toList ++ fault ++ ['\n']

/- What is reported for a record that gave no line. -/
def reportUnrendered
    (failure : RenderError) :
    Text :=
  ("tintlog: failed to render record: " ++
    failure.message).toList ++ ['\n']

/- Write an event if it is accepted; a failure is reported. -/
def log
    (logger : Logger)
    (console : Console)
    (event : Event) :
    Logger × Console :=
  if logger.accepts event.level event.target then
    match (logger.renderer.render (Record.ofEvent event)).1 with
    | .error failure =>
        (logger, console.writeErr (reportUnrendered failure))
    | .ok line =>
        match logger.sink.writeLine console line with
        | .ok (sink, console) => ({ logger with sink }, console)
        | .error fault =>
            (logger, console.writeErr (reportUnwritten fault))
  else
    (logger, console)

/- Write events in order. -/
def logAll
    (logger : Logger)
    (console : Console)
    (events : List Event) :
    Logger × Console :=
  events.foldl
    (fun (logger, console) event => logger.log console event)
    (logger, console)

/- Make sure that the sink holds nothing back. -/
def flush
    (logger : Logger) :
    Logger :=
  { logger with sink := logger.sink.flush }

/- A logger by the values that tell it from others. -/
def inspect
    (logger : Logger) :
    Text :=
  Inspect.record "TintLogger"
    [("target", logger.target.escaped),
     ("min_level", logger.level.constructorName.toList),
     ("filter", logger.filter.constructorName.toList),
     ("renderer", logger.renderer.inspect),
     ("sink", logger.sink.inspect)]
    false

end Logger

end LogLine

------------------------------------------------------------
-- Setting Up
------------------------------------------------------------

namespace LogLine

/- What is given for a logger; the rest is standard. -/
structure LoggerSetup where
  name : Text
  package : Option Text
  level : Option Level
  sink : Option Sink
  renderer : Option Renderer
  supportsColor : Option Bool

namespace LoggerSetup

/- Nothing but a name. -/
def ofName
    (name : Text) :
    LoggerSetup :=
  ⟨name, none, none, none, none, none⟩

/- The target of the name within its package. -/
def target
    (setup : LoggerSetup) :
    Text :=
  match setup.package with
  | some package =>
      if setup.name.isEmpty then
        package
      else
        package ++ [':', ':'] ++ setup.name
  | none => setup.name

/-
  The logger of a setup.  If its renderer has not decided on
  colour, the setup decides, or else the detector.
-/
def build
    (setup : LoggerSetup)
    (detector : ColorDetector) :
    Except SetupError Logger := do
  let sink := setup.sink.getD .stderr
  let renderer ←
    match setup.renderer with
    | some renderer => pure renderer
    | none => Settings.standard.build
  let supported := setup.supportsColor.getD (detector sink)
  return {
    target := setup.target
    level := setup.level.getD .warning
    renderer := (renderer.decideColor supported).2
    sink }

/- A setup by what is given. -/
def inspect
    (setup : LoggerSetup) :
    Text :=
  Inspect.record "Setup"
    [("name", setup.name.escaped),
     ("package", Inspect.option Text.escaped setup.package),
     ("level",
       Inspect.option
         (fun level : Level => level.constructorName.toList)
         setup.level),
     ("sink", Inspect.option Sink.inspect setup.sink),
     ("renderer",
       Inspect.option Renderer.inspect setup.renderer),
     ("supports_color",
       Inspect.option Inspect.bool setup.supportsColor)]
    false

end LoggerSetup

end LogLine

------------------------------------------------------------
-- The Logger of a Process
------------------------------------------------------------

namespace LogLine

/- The one logger of a process, and what events reach it. -/
structure Registry where
  logger : Option Logger
  maxLevel : LevelFilter

/- Why a logger does not become that of the process. -/
inductive InstallError where
  | setup (fault : SetupError)
  /- The process has a logger for good. -/
  | alreadyInstalled
deriving DecidableEq, Repr

def InstallError.message : InstallError → String
  | setup fault => fault.message
  | alreadyInstalled =>
      "failed to install logger: attempted to set a logger " ++
        "after the logging system was already initialized"

namespace Registry

/- No logger, and no event that would reach it. -/
def empty : Registry :=
  ⟨none, .off⟩

/- Make the logger of a setup that of the process. -/
def install
    (registry : Registry)
    (setup : LoggerSetup)
    (detector : ColorDetector) :
    Except InstallError Registry := do
  let logger ← (setup.build detector).mapError InstallError.setup
  match registry.logger with
  | some _ => throw .alreadyInstalled
  | none => return ⟨some logger, logger.filter⟩

/- Pass an event to the logger if its level is let through. -/
def log
    (registry : Registry)
    (console : Console)
    (event : Event) :
    Registry × Console :=
  match registry.logger with
  | none => (registry, console)
  | some logger =>
      if registry.maxLevel.admits event.level then
        let (logger, console) := logger.log console event
        ({ registry with logger }, console)
      else
        (registry, console)

end Registry

end LogLine
