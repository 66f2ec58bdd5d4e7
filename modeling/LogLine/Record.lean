import LogLine.Level
import LogLine.Value
import LogLine.Text.Dict
import LogLine.Text.Path
import LogLine.Time.Calendar

/-
  Log records: the attributes that every record can have,
  further values under any name, and two texts that are made
  once and kept.

  Key definitions include:
    * `LogLine.Attribute`
    * `LogLine.intrinsicNames`
    * `LogLine.Failure`
    * `LogLine.Record`
    * `LogLine.Record.field?`
    * `LogLine.Record.timeTextWith`
    * `LogLine.Record.failureTextWith`

  Key theorems include:
    * `LogLine.Attribute.ofName?_fieldName`
-/

------------------------------------------------------------
-- Attributes
------------------------------------------------------------

namespace LogLine

/- The attributes that a record can have by itself. -/
inductive Attribute where
  | name
  | message
  | args
  | levelName
  | levelNumber
  | pathName
  | fileName
  | module
  | failureSummary
  | failureText
  | stackInfo
  | lineNumber
  | functionName
  | created
  | milliseconds
  | relativeCreated
  | thread
  | threadName
  | processName
  | process
  | timeText
deriving DecidableEq, Repr

namespace Attribute

def all : List Attribute :=
  [name, message, args, levelName, levelNumber, pathName,
   fileName, module, failureSummary, failureText, stackInfo,
   lineNumber, functionName, created, milliseconds,
   relativeCreated, thread, threadName, processName, process,
   timeText]

/- The name of an attribute in templates. -/
def key : Attribute → String
  | name => "name"
  | message => "message"
  | args => "args"
  | levelName => "levelname"
  | levelNumber => "levelno"
  | pathName => "pathname"
  | fileName => "filename"
  | module => "module"
  | failureSummary => "exc_info"
  | failureText => "exc_text"
  | stackInfo => "stack_info"
  | lineNumber => "lineno"
  | functionName => "funcName"
  | created => "created"
  | milliseconds => "msecs"
  | relativeCreated => "relativeCreated"
  | thread => "thread"
  | threadName => "threadName"
  | processName => "processName"
  | process => "process"
  | timeText => "asctime"

/- The name of an attribute as text. -/
def fieldName
    (attr : Attribute) :
    Text :=
  attr.key.toList

/- The attribute with a name. -/
def ofName?
    (name : Text) :
    Option Attribute :=
  all.find? (fun attr => attr.fieldName == name)

theorem ofName?_fieldName
    (attr : Attribute) :
    ofName? attr.fieldName = some attr := by
  cases attr <;> decide

end Attribute

/-
  The names that templates may use with any record: those of
  the attributes and of the two group fields.
-/
def intrinsicNames : List Text :=
  Attribute.all.map Attribute.fieldName ++
    ["enter".toList, "exit".toList]

end LogLine

------------------------------------------------------------
-- Failures of Programs
------------------------------------------------------------

namespace LogLine

/- What a record tells of a failure in the program. -/
structure Failure where
  /- The full text, in any number of lines. -/
  traceback : Text
  /- One line for the failure as a value. -/
  summary : Option Text
deriving DecidableEq, Repr

namespace Failure

/- A failure with nothing but its text. -/
def ofText
    (traceback : Text) :
    Failure :=
  ⟨traceback, none⟩

/- A failure by its message and the messages of its causes. -/
def ofChain
    (message : Text)
    (causes : List Text) :
    Failure where
  traceback :=
    "Error: ".toList ++ message ++
      causes.flatMap ("\nCaused by: ".toList ++ ·)
  summary := some message

end Failure

end LogLine

------------------------------------------------------------
-- Records
------------------------------------------------------------

namespace LogLine

/- The process that a record comes from. -/
structure Origin where
  process : Nat
  processName : Option Text
  started : Instant
deriving DecidableEq, Repr, Inhabited

/-
  One event.  `timeText` and `failureText` are kept once they
  are made; `timeCalls` counts how often the time was written,
  and `tracebackCalls` how often the failure was asked for its
  text.
-/
structure Record where
  name : Text
  level : Level
  message : Text
  pathName : Option Text
  module : Option Text
  lineNumber : Option Nat
  functionName : Option Text
  created : Instant
  thread : Option Nat
  threadName : Option Text
  origin : Origin
  stackInfo : Option Text
  failure : Option Failure
  extras : Dict Value
  timeText : Option Text
  failureText : Option Text
  timeCalls : Nat
  tracebackCalls : Nat
deriving DecidableEq

namespace Record

/- A record with a level, a name, a message and a time only. -/
def ofMessage
    (level : Level)
    (name message : Text)
    (created : Instant) :
    Record where
  name := name
  level := level
  message := message
  pathName := none
  module := none
  lineNumber := none
  functionName := none
  created := created
  thread := none
  threadName := none
  origin := default
  stackInfo := none
  failure := none
  extras := Dict.empty
  timeText := none
  failureText := none
  timeCalls := 0
  tracebackCalls := 0

/- Store a further value under a name. -/
def insertExtra
    (record : Record)
    (key : Text)
    (value : Value) :
    Record :=
  { record with extras := record.extras.insert key value }

/- The last component of the path. -/
def fileName?
    (record : Record) :
    Option Text :=
  record.pathName.bind Path.fileName?

/- The module, or else the file name without its extension. -/
def module?
    (record : Record) :
    Option Text :=
  record.module.or (record.pathName.bind Path.fileStem?)

/- The seconds since the start of 1970. -/
def createdSeconds
    (record : Record) :
    Binary64 :=
  (Binary64.ofInt record.created.microseconds).dividedByNat
    1000000

/- The milliseconds since the second of the record. -/
def createdMillis
    (record : Record) :
    Binary64 :=
  (Binary64.ofInt record.created.subsecondMicros).dividedByNat
    1000

/-
  The milliseconds since the process started; 0 if there are
  more microseconds than an integer of 64 bits can count.
-/
def relativeMillis
    (record : Record) :
    Binary64 :=
  let elapsed :=
    record.created.microsecondsSince record.origin.started
  (Binary64.ofInt
    (if Value.fitsInt elapsed then elapsed else 0)).dividedByNat
    1000

/- The value of an attribute, if the record has it. -/
def attributeValue?
    (record : Record)
    (attr : Attribute) :
    Option Value :=
  match attr with
  | .name => some (.str record.name)
  | .message => some (.str record.message)
  | .args => none
  | .levelName => some (.ofString record.level.name)
  | .levelNumber => some (.ofNat record.level.rank)
  | .pathName => record.pathName.map .str
  | .fileName => record.fileName?.map .str
  | .module => record.module?.map .str
  | .failureSummary =>
      (record.failure.bind Failure.summary).map .str
  | .failureText => record.failureText.map .str
  | .stackInfo => record.stackInfo.map .str
  | .lineNumber => record.lineNumber.map .ofNat
  | .functionName => record.functionName.map .str
  | .created => some (.float record.createdSeconds)
  | .milliseconds => some (.float record.createdMillis)
  | .relativeCreated => some (.float record.relativeMillis)
  | .thread => record.thread.map .ofNat
  | .threadName => record.threadName.map .str
  | .processName => record.origin.processName.map .str
  | .process => some (.ofNat record.origin.process)
  | .timeText => record.timeText.map .str

/- The value of an attribute, or else what is stored under a name. -/
def field?
    (record : Record)
    (name : Text) :
    Option Value :=
  match Attribute.ofName? name with
  | some attr => record.attributeValue? attr
  | none => record.extras.get? name

end Record

end LogLine

------------------------------------------------------------
-- Texts That Are Kept
------------------------------------------------------------

namespace LogLine

namespace Record

/- The text of the time; it is made at the first call only. -/
def timeTextWith
    (record : Record)
    (format : Instant → Text) :
    Text × Record :=
  match record.timeText with
  | some text => (text, record)
  | none =>
      let text := format record.created
      (text,
        { record with
          timeText := some text
          timeCalls := record.timeCalls + 1 })

/-
  The text of the failure, if there is one; it is made at the
  first call only, from the traceback without its last line
  feed.
-/
def failureTextWith
    (record : Record)
    (decorate : Text → Text) :
    Option Text × Record :=
  match record.failure with
  | none => (none, record)
  | some failure =>
      match record.failureText with
      | some text => (some text, record)
      | none =>
          let text := decorate (failure.traceback.dropFinal '\n')
          (some text,
            { record with
              failureText := some text
              tracebackCalls := record.tracebackCalls + 1 })

end Record

end LogLine
