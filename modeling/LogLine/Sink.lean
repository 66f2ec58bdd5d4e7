import LogLine.Text

/-
  Where lines go, and what a run leaves on the standard
  streams.

  Key definitions include:
    * `LogLine.Console`
    * `LogLine.Writer`
    * `LogLine.Sink`
    * `LogLine.Sink.writeLine`
    * `LogLine.ColorDetector`
-/

------------------------------------------------------------
-- Streams and Writers
------------------------------------------------------------

namespace LogLine

/- The texts put on the standard streams. -/
structure Console where
  out : Text
  err : Text
deriving DecidableEq, Repr

namespace Console

def empty : Console :=
  ⟨[], []⟩

def writeOut
    (console : Console)
    (text : Text) :
    Console :=
  { console with out := console.out ++ text }

def writeErr
    (console : Console)
    (text : Text) :
    Console :=
  { console with err := console.err ++ text }

end Console

/-
  A place of its own for lines: what it holds, how often it
  was flushed, and why it takes no line if it takes none.
-/
structure Writer where
  written : Text
  flushes : Nat
  fault : Option Text
deriving DecidableEq, Repr

namespace Writer

/- A writer that takes every line. -/
def memory : Writer :=
  ⟨[], 0, none⟩

/- A writer that takes no line. -/
def broken
    (fault : Text) :
    Writer :=
  ⟨[], 0, some fault⟩

end Writer

end LogLine

------------------------------------------------------------
-- Sinks
------------------------------------------------------------

namespace LogLine

/- Where lines go. -/
inductive Sink where
  | stdout
  | stderr
  | writer (writer : Writer)
deriving DecidableEq, Repr

namespace Sink

/-
  Write a text and a line feed.  A writer that takes none
  answers with the reason.
-/
def writeLine
    (sink : Sink)
    (console : Console)
    (line : Text) :
    Except Text (Sink × Console) :=
  let text := line ++ ['\n']
  match sink with
  | stdout => .ok (sink, console.writeOut text)
  | stderr => .ok (sink, console.writeErr text)
  | writer w =>
      match w.fault with
      | some fault => .error fault
      | none =>
          .ok (writer { w with written := w.written ++ text },
            console)

/- Make sure that nothing is held back. -/
def flush : Sink → Sink
  | stdout => stdout
  | stderr => stderr
  | writer w => writer { w with flushes := w.flushes + 1 }

/- The writer of a sink that has one of its own. -/
def writer? : Sink → Option Writer
  | writer w => some w
  | _ => none

def inspect : Sink → Text
  | stdout => "Stdout".toList
  | stderr => "Stderr".toList
  | writer _ => "Writer(..)".toList

end Sink

end LogLine

------------------------------------------------------------
-- Colour of Sinks
------------------------------------------------------------

namespace LogLine

/- How it is found out whether a sink shows colour. -/
abbrev ColorDetector :=
  Sink → Bool

/- Which standard streams are terminals that show colour. -/
structure Terminals where
  out : Bool
  err : Bool
deriving DecidableEq, Repr

/- Standard streams show colour if they are such terminals. -/
def terminalDetector
    (terminals : Terminals) :
    ColorDetector
  | .stdout => terminals.out
  | .stderr => terminals.err
  | .writer _ => false

end LogLine
