import LogLine.Text

/-
  Severity levels, and the levels and filters of the events
  that a program emits.

  Key definitions include:
    * `LogLine.Level`
    * `LogLine.Level.rank`
    * `LogLine.Level.ofRank`
    * `LogLine.Level.ofName`
    * `LogLine.EventLevel`
    * `LogLine.LevelFilter`
    * `LogLine.Level.filter`
-/

------------------------------------------------------------
-- Severities
------------------------------------------------------------

namespace LogLine

/- The severities from least to most severe. -/
inductive Level where
  | debug
  | info
  | warning
  | error
  | critical
deriving DecidableEq, Repr, Inhabited

namespace Level

/- All levels in the order of their ranks. -/
def all : List Level :=
  [debug, info, warning, error, critical]

/- The number that orders the levels. -/
def rank : Level → Nat
  | debug => 10
  | info => 20
  | warning => 30
  | error => 40
  | critical => 50

/- The name of a level in a line. -/
def name : Level → String
  | debug => "DEBUG"
  | info => "INFO"
  | warning => "WARNING"
  | error => "ERROR"
  | critical => "CRITICAL"

/- The name of a level in a configuration. -/
def key : Level → String
  | debug => "debug"
  | info => "info"
  | warning => "warning"
  | error => "error"
  | critical => "critical"

/- The name of a level when a value is inspected. -/
def constructorName : Level → String
  | debug => "Debug"
  | info => "Info"
  | warning => "Warning"
  | error => "Error"
  | critical => "Critical"

theorem mem_all
    (level : Level) :
    level ∈ all := by
  cases level <;> decide

end Level

/- A rank or a name that no level has. -/
inductive LevelError where
  | unknownRank (rank : Nat)
  | unknownName (name : Text)
deriving DecidableEq, Repr

def LevelError.message : LevelError → String
  | unknownRank rank => "unknown level: " ++ toString rank
  | unknownName name =>
      "unknown level: " ++ String.ofList name

namespace Level

/- The level with a rank. -/
def ofRank
    (rank : Nat) :
    Except LevelError Level :=
  match all.find? (fun level => level.rank == rank) with
  | some level => .ok level
  | none => .error (.unknownRank rank)

/- The names of the levels and their aliases. -/
def names : List (String × Level) :=
  [("CRITICAL", critical), ("FATAL", critical),
   ("ERROR", error),
   ("WARNING", warning), ("WARN", warning),
   ("INFO", info),
   ("DEBUG", debug), ("TRACE", debug)]

/- The level with a name, in upper or lower case. -/
def ofName
    (name : Text) :
    Except LevelError Level :=
  match names.lookup (String.ofList (name.map Char.toUpper)) with
  | some level => .ok level
  | none => .error (.unknownName name)

end Level

end LogLine

------------------------------------------------------------
-- Levels of Events
------------------------------------------------------------

namespace LogLine

/- The levels that programs give to events, coarsest first. -/
inductive EventLevel where
  | error
  | warn
  | info
  | debug
  | trace
deriving DecidableEq, Repr

namespace EventLevel

/- The number that grows with the detail of a level. -/
def detail : EventLevel → Nat
  | error => 1
  | warn => 2
  | info => 3
  | debug => 4
  | trace => 5

/- The severity of events at a level. -/
def severity : EventLevel → Level
  | error => .error
  | warn => .warning
  | info => .info
  | debug => .debug
  | trace => .debug

end EventLevel

/- The most detailed level let through, if any is. -/
inductive LevelFilter where
  | off
  | upTo (level : EventLevel)
deriving DecidableEq, Repr

namespace LevelFilter

/- The name of a filter. -/
def name : LevelFilter → String
  | off => "OFF"
  | upTo .error => "ERROR"
  | upTo .warn => "WARN"
  | upTo .info => "INFO"
  | upTo .debug => "DEBUG"
  | upTo .trace => "TRACE"

/- The name of a filter when a value is inspected. -/
def constructorName : LevelFilter → String
  | off => "Off"
  | upTo .error => "Error"
  | upTo .warn => "Warn"
  | upTo .info => "Info"
  | upTo .debug => "Debug"
  | upTo .trace => "Trace"

/- Whether events at a level are let through. -/
def admits
    (filter : LevelFilter)
    (level : EventLevel) :
    Bool :=
  match filter with
  | off => false
  | upTo greatest => level.detail ≤ greatest.detail

end LevelFilter

/-
  The filter that lets a severity and all above it through.
  Events have nothing above errors, so that is also the filter
  of critical lines.
-/
def Level.filter : Level → LevelFilter
  | debug => .upTo .trace
  | info => .upTo .info
  | warning => .upTo .warn
  | error => .upTo .error
  | critical => .upTo .error

end LogLine
