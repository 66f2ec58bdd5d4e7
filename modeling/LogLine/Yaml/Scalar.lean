import LogLine.Yaml.Node
import LogLine.Yaml.Place

/-
  The scalars of a YAML document: texts between quotes with
  their escapes, and texts without quotes.  Both may go over
  several lines, which are folded.

  Key definitions include:
    * `LogLine.Yaml.foldBreaks`
    * `LogLine.Yaml.singleQuoted?`
    * `LogLine.Yaml.doubleQuoted?`
    * `LogLine.Yaml.PlainScalar`
    * `LogLine.Yaml.plainScalar?`
-/

------------------------------------------------------------
-- Folded Lines
------------------------------------------------------------

namespace LogLine

namespace Yaml

/- A line break as it stands in a scalar. -/
def breakText
    (c : Char) :
    Text :=
  if c = '\u2028' ∨ c = '\u2029' then [c] else ['\n']

/-
  The place behind the spaces that begin a line.  A tab may
  not stand among the first `least` characters of it.
-/
def skipIndent?
    (least : Nat)
    (place : Place) :
    Option Place :=
  let blank := place.rest.takeWhile isSpace
  let column :=
    place.column + (blank.takeWhile (· == ' ')).length
  if '\t' ∈ blank ∧ column < least then
    none
  else
    some place.skipSpaces

/-
  The breaks at a place, with the spaces that begin the lines
  behind them.
-/
def takeBreaks?
    (least : Nat) :
    Nat → Place → Option (List Text × Place)
  | 0, place => some ([], place)
  | fuel + 1, place =>
      match place.rest with
      | c :: _ =>
          if isBreak c then do
            let line ← skipIndent? least place.skipBreak
            let (breaks, behind) ← takeBreaks? least fuel line
            return (breakText c :: breaks, behind)
          else
            some ([], place)
      | [] => some ([], place)

/- A run of breaks as one space, or as the breaks behind the first. -/
def foldBreaks : List Text → Text
  | [] => []
  | [first] => if first = ['\n'] then [' '] else first
  | first :: others =>
      (if first = ['\n'] then [] else first) ++ others.flatten

end Yaml

end LogLine

------------------------------------------------------------
-- Quoted Scalars
------------------------------------------------------------

namespace LogLine

namespace Yaml

/- The breaks between quotes; no marker may stand behind them. -/
def quotedBreaks?
    (place : Place) :
    Option (List Text × Place) :=
  (takeBreaks? 0 (place.rest.length + 1) place).filter
    fun (_, behind) => !behind.atMarker

/- White space between quotes; line breaks are folded. -/
def quotedBlank?
    (place : Place) :
    Option (Text × Place) := do
  let spaces := place.rest.takeWhile isSpace
  let (breaks, behind) ← quotedBreaks? place.skipSpaces
  if breaks.isEmpty then
    return (spaces, behind)
  else
    return (foldBreaks breaks, behind)

/- The text up to a single quote, which is doubled inside. -/
def singleQuotedFuel :
    Nat → Place → Option (Text × Place)
  | 0, _ => none
  | fuel + 1, place =>
      match place.rest with
      | [] => none
      | '\'' :: '\'' :: _ =>
          (singleQuotedFuel fuel (place.skip 2)).map
            fun (text, behind) => ('\'' :: text, behind)
      | '\'' :: _ => some ([], place.skip 1)
      | c :: _ =>
          if isSpace c || isBreak c then do
            let (blank, behind) ← quotedBlank? place
            let (text, last) ← singleQuotedFuel fuel behind
            return (blank ++ text, last)
          else
            (singleQuotedFuel fuel (place.skip 1)).map
              fun (text, behind) => (c :: text, behind)

/- A scalar between single quotes. -/
def singleQuoted?
    (place : Place) :
    Option (Text × Place) :=
  singleQuotedFuel (place.rest.length + 1) (place.skip 1)

/- The character that a letter behind a backslash stands for. -/
def escapeChar? : Char → Option Char
  | '0' => some '\x00'
  | 'a' => some '\x07'
  | 'b' => some '\x08'
  | 't' => some '\t'
  | '\t' => some '\t'
  | 'n' => some '\n'
  | 'v' => some '\x0b'
  | 'f' => some '\x0c'
  | 'r' => some '\r'
  | 'e' => some '\x1b'
  | ' ' => some ' '
  | '"' => some '"'
  | '/' => some '/'
  | '\\' => some '\\'
  | 'N' => some '\x85'
  | '_' => some '\xa0'
  | 'L' => some '\u2028'
  | 'P' => some '\u2029'
  | _ => none

/- The number of digits behind a letter for a code point. -/
def escapeWidth? : Char → Option Nat
  | 'x' => some 2
  | 'u' => some 4
  | 'U' => some 8
  | _ => none

/- An escape by its character and its length in the text. -/
def escape?
    (text : Text) :
    Option (Char × Nat) :=
  match text with
  | [] => none
  | letter :: rest =>
      match escapeWidth? letter with
      | some width => do
          let digits := rest.take width
          let n ← natural? 16 digits
          if digits.length = width ∧ n.isValidChar then
            return (Char.ofNat n, width + 1)
          else
            none
      | none => (escapeChar? letter).map (·, 1)

/- The text up to a double quote, its escapes resolved. -/
def doubleQuotedFuel :
    Nat → Place → Option (Text × Place)
  | 0, _ => none
  | fuel + 1, place =>
      match place.rest with
      | [] => none
      | '"' :: _ => some ([], place.skip 1)
      | '\\' :: rest =>
          if (rest.head?.map isBreak).getD false then do
            let line := (place.skip 1).skipBreak.skipSpaces
            let (breaks, behind) ← quotedBreaks? line
            let (text, last) ← doubleQuotedFuel fuel behind
            return (breaks.flatten ++ text, last)
          else do
            let (c, count) ← escape? rest
            let (text, behind) ←
              doubleQuotedFuel fuel (place.skip (count + 1))
            return (c :: text, behind)
      | c :: _ =>
          if isSpace c || isBreak c then do
            let (blank, behind) ← quotedBlank? place
            let (text, last) ← doubleQuotedFuel fuel behind
            return (blank ++ text, last)
          else
            (doubleQuotedFuel fuel (place.skip 1)).map
              fun (text, behind) => (c :: text, behind)

/- A scalar between double quotes. -/
def doubleQuoted?
    (place : Place) :
    Option (Text × Place) :=
  doubleQuotedFuel (place.rest.length + 1) (place.skip 1)

end Yaml

end LogLine

------------------------------------------------------------
-- Plain Scalars
------------------------------------------------------------

namespace LogLine

namespace Yaml

/- Whether a scalar without quotes can start with a text. -/
def startsPlain
    (inFlow : Bool)
    (text : Text) :
    Bool :=
  match text with
  | [] => false
  | c :: rest =>
      if c = '-' then
        !atBlank rest
      else if c = '?' ∨ c = ':' then
        !inFlow && !atBlank rest
      else
        !atBlank text && !isFlowIndicator c &&
          c ∉ "#&*!|>'\"%@\x60".toList

/-
  The characters of a scalar up to a space or its end; none
  where a colon in a flow collection cannot be read.
-/
def plainWord?
    (inFlow : Bool) :
    Text → Option Text
  | [] => some []
  | c :: rest =>
      if isSpace c || isBreak c then
        some []
      else if c = ':' ∧ atBlank rest then
        some []
      else if inFlow && c == ':' &&
          (rest.head?.map fun d =>
            isFlowIndicator d || d == '?').getD false then
        none
      else if inFlow && isFlowIndicator c then
        some []
      else
        (plainWord? inFlow rest).map (c :: ·)

/-
  A scalar without quotes, the place behind it and the blanks
  that follow it, and whether a line ended among those.
-/
structure PlainScalar where
  text : Text
  behind : Place
  endsLine : Bool
deriving DecidableEq, Repr

/-
  The words of a scalar from a place on, behind a blank that
  belongs to the scalar only if a word follows.
-/
def plainFuel
    (inFlow : Bool)
    (least : Nat) :
    Nat → Text → Bool → Place → Option PlainScalar
  | 0, _, _, _ => none
  | fuel + 1, blank, endsLine, place => do
      let word ←
        if place.atMarker || place.rest.head? == some '#' then
          some []
        else
          plainWord? inFlow place.rest
      if word.isEmpty then
        return ⟨[], place, endsLine⟩
      else
        let behind := place.skip word.length
        let spaces := behind.rest.takeWhile isSpace
        let (breaks, following) ←
          takeBreaks? least (behind.rest.length + 1)
            behind.skipSpaces
        if !inFlow && following.column < least then
          return ⟨blank ++ word, following, !breaks.isEmpty⟩
        else
          let next :=
            if breaks.isEmpty then spaces else foldBreaks breaks
          let others ←
            plainFuel inFlow least fuel next
              (!breaks.isEmpty) following
          return { others with
            text := blank ++ word ++ others.text }

/-
  A scalar without quotes.  It goes on over spaces, and over
  line breaks as long as lines are indented to `least` or
  stand in a flow collection; a comment or a marker ends it.
-/
def plainScalar?
    (inFlow : Bool)
    (least : Nat)
    (place : Place) :
    Option PlainScalar :=
  plainFuel inFlow least (place.rest.length + 1) [] false place

end Yaml

end LogLine
