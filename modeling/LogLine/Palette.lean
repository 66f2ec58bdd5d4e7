import LogLine.LevelMap

/-
  Colours as escape sequences, and the colours of one field at
  every level.

  Key definitions include:
    * `LogLine.Color`
    * `LogLine.Color.sequence`
    * `LogLine.Palette`
    * `LogLine.Palette.ofColors`
    * `LogLine.Palette.paint`
-/

------------------------------------------------------------
-- Colours
------------------------------------------------------------

namespace LogLine

/- The sequence behind every coloured span. -/
def resetSequence : Text :=
  "\x1b[0m".toList

/- A colour by its code, or by several codes in a row. -/
inductive Color where
  | code (code : Text)
  | codes (codes : List Text)
deriving DecidableEq, Repr

/- A colour by a number as its code. -/
def Color.ofNat
    (n : Nat) :
    Color :=
  code (Text.ofNat n)

/- Why a colour is no escape sequence. -/
inductive PaletteError where
  | emptyCode
  /- A code holds something else than digits and `;`. -/
  | invalidCode (code : Text)
  | emptySequence
deriving DecidableEq, Repr

def PaletteError.message : PaletteError → String
  | emptyCode => "color code is empty"
  | invalidCode code =>
      "invalid color code '" ++ String.ofList code ++
        "': expected digits separated by ';'"
  | emptySequence => "color code sequence is empty"

/- Whether a character may stand in a code. -/
def isCodeDigit
    (c : Char) :
    Bool :=
  c.isDigit || c == ';'

/- The escape sequence of a code. -/
def codeSequence
    (code : Text) :
    Except PaletteError Text :=
  if code.isEmpty then
    .error .emptyCode
  else if code.all isCodeDigit then
    .ok ("\x1b[".toList ++ code ++ ['m'])
  else
    .error (.invalidCode code)

/- The escape sequence of a colour. -/
def Color.sequence : Color → Except PaletteError Text
  | code c => codeSequence c
  | codes [] => .error .emptySequence
  | codes (c :: rest) => do
      let sequences ← (c :: rest).mapM codeSequence
      return sequences.flatten

end LogLine

------------------------------------------------------------
-- Palettes
------------------------------------------------------------

namespace LogLine

/- The escape sequence of every level; an empty one is no colour. -/
structure Palette where
  enter : Level → Text

namespace Palette

/- The sequence of a level's colour; no colour is no text. -/
def levelSequence
    (colors : LevelMap Color)
    (level : Level) :
    Except PaletteError Text :=
  match colors.get? level with
  | some color => color.sequence
  | none => .ok []

/- The palette of colours; the lowest level's fault is reported. -/
def ofColors
    (colors : LevelMap Color) :
    Except PaletteError Palette := do
  let debug ← levelSequence colors .debug
  let info ← levelSequence colors .info
  let warning ← levelSequence colors .warning
  let error ← levelSequence colors .error
  let critical ← levelSequence colors .critical
  return ⟨fun
    | .debug => debug
    | .info => info
    | .warning => warning
    | .error => error
    | .critical => critical⟩

/- The same colour at every level. -/
def uniform
    (color : Color) :
    Except PaletteError Palette :=
  ofColors (LevelMap.uniform color)

/- The sequence behind a span; nothing if nothing is in front. -/
def exit
    (palette : Palette)
    (level : Level) :
    Text :=
  if palette.enter level = [] then [] else resetSequence

/- A text in a level's colour. -/
def paint
    (palette : Palette)
    (level : Level)
    (text : Text) :
    Text :=
  palette.enter level ++ text ++ palette.exit level

end Palette

end LogLine
