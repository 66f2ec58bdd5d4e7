import LogLine.Text.WordChar
import LogLine.Text

/-
  The shapes that field names and format specs must have in a
  template that is set up.

  Key definitions include:
    * `LogLine.isFieldName`
    * `LogLine.SpecParts`
    * `LogLine.SpecParts.ofText?`
    * `LogLine.isSpecText`

  A name is a word with attributes and indices behind it.  A
  spec text follows the spec grammar, but its width and its
  precision may also be words in braces.
-/

------------------------------------------------------------
-- Names
------------------------------------------------------------

namespace LogLine

/- What a name path may go on with. -/
inductive PathState where
  /- A word needs its first character. -/
  | wordStart
  /- Inside a word. -/
  | word
  /- An index needs its first character. -/
  | indexStart
  /- Inside an index. -/
  | index
  /- Behind an index. -/
  | indexEnd
deriving DecidableEq, Repr

namespace PathState

/- Whether a path may end here. -/
def accepting : PathState → Bool
  | word | indexEnd => true
  | _ => false

/- The state behind an attribute point or an opening bracket. -/
def afterPart
    (c : Char) :
    Option PathState :=
  if c = '.' then
    some wordStart
  else if c = '[' then
    some indexStart
  else
    none

/- The state behind one more character. -/
def step
    (state : PathState)
    (c : Char) :
    Option PathState :=
  match state with
  | wordStart => if isWordChar c then some word else none
  | word => if isWordChar c then some word else afterPart c
  | indexStart => if c = ']' then none else some index
  | index => if c = ']' then some indexEnd else some index
  | indexEnd => afterPart c

end PathState

/-
  Whether a name is a word, followed by any number of
  attributes `.word` and of indices `[...]` that are not empty.
-/
def isFieldName
    (name : Text) :
    Bool :=
  match name.foldlM PathState.step PathState.wordStart with
  | some state => state.accepting
  | none => false

end LogLine

------------------------------------------------------------
-- Spec Texts
------------------------------------------------------------

namespace LogLine

/- A width or a precision as it is written. -/
inductive Count where
  | digits (digits : Text)
  /- A word in braces, to be replaced by a value. -/
  | nested (word : Text)
deriving DecidableEq, Repr

/-
  The parts of a spec text.  The fill and the alignment are
  one part, so that a fill cannot stand alone.
-/
structure SpecParts where
  align : Text
  sign : Option Char
  alternate : Bool
  zero : Bool
  width : Option Count
  grouping : Option Char
  precision : Option Count
  code : Option Char
deriving DecidableEq, Repr

namespace SpecParts

def isAlignChar
    (c : Char) :
    Bool :=
  c ∈ ['<', '>', '=', '^']

def isSignChar
    (c : Char) :
    Bool :=
  c ∈ ['+', ' ', '-']

def isGroupingChar
    (c : Char) :
    Bool :=
  c ∈ [',', '_']

/-
  Whether a character ends a spec text.  Case is ignored, and
  the long s is a form of the letter s.
-/
def isCodeChar
    (c : Char) :
    Bool :=
  c ∈ "bcdefgnosxBCDEFGNOSX%".toList || c == '\u017f'

/- Split off a fill and an alignment; a line feed is no fill. -/
def splitAlign
    (text : Text) :
    Text × Text :=
  match text with
  | c :: d :: rest =>
      if isAlignChar d && c != '\n' then
        ([c, d], rest)
      else if isAlignChar c then
        ([c], d :: rest)
      else
        ([], c :: d :: rest)
  | [c] => if isAlignChar c then ([c], []) else ([], [c])
  | [] => ([], [])

/- Split off one character of a class. -/
def splitChar
    (inClass : Char → Bool)
    (text : Text) :
    Option Char × Text :=
  match text with
  | c :: rest =>
      if inClass c then (some c, rest) else (none, c :: rest)
  | [] => (none, [])

/- Split off a run of digits of any script, or a braced word. -/
def splitCount
    (text : Text) :
    Option (Count × Text) :=
  match text with
  | '{' :: rest =>
      let word := rest.takeWhile isWordChar
      match rest.dropWhile isWordChar with
      | '}' :: behind =>
          if word.isEmpty then
            none
          else
            some (.nested word, behind)
      | _ => none
  | _ =>
      let digits := text.takeWhile isDecimalDigit
      if digits.isEmpty then
        none
      else
        some (.digits digits, text.dropWhile isDecimalDigit)

/- Split off a count if there is one. -/
def splitWidth
    (text : Text) :
    Option Count × Text :=
  match splitCount text with
  | some (count, rest) => (some count, rest)
  | none => (none, text)

/- Split off a point with a count behind it. -/
def splitPrecision
    (text : Text) :
    Option Count × Text :=
  match text with
  | '.' :: rest =>
      match splitCount rest with
      | some (count, behind) => (some count, behind)
      | none => (none, text)
  | _ => (none, text)

/- The parts of a text, provided that they are all of it. -/
def ofText?
    (text : Text) :
    Option SpecParts :=
  let (align, text) := splitAlign text
  let (sign, text) := splitChar isSignChar text
  let (alternate, text) := splitChar (· == '#') text
  let (zero, text) := splitChar (· == '0') text
  let (width, text) := splitWidth text
  let (grouping, text) := splitChar isGroupingChar text
  let (precision, text) := splitPrecision text
  let (code, text) := splitChar isCodeChar text
  if text.isEmpty then
    some {
      align, sign, width, grouping, precision, code
      alternate := alternate.isSome
      zero := zero.isSome }
  else
    none

end SpecParts

/- Whether a text has the shape of a spec. -/
def isSpecText
    (text : Text) :
    Bool :=
  (SpecParts.ofText? text).isSome

end LogLine
