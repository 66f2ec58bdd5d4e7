import LogLine.Text

/-
  Places in a YAML document.

  Key definitions include:
    * `LogLine.Yaml.isAllowed`
    * `LogLine.Yaml.isBreak`
    * `LogLine.Yaml.Place`
    * `LogLine.Yaml.Place.skip`
    * `LogLine.Yaml.Place.skipBreak`
    * `LogLine.Yaml.Place.atMarker`
-/

------------------------------------------------------------
-- Characters
------------------------------------------------------------

namespace LogLine

namespace Yaml

/- Whether a document may hold a character. -/
def isAllowed
    (c : Char) :
    Bool :=
  let n := c.toNat
  c == '\t' || c == '\n' || c == '\r' || n == 0x85 ||
    (0x20 ≤ n && n ≤ 0x7e) || (0xa0 ≤ n && n ≤ 0xfffd) ||
    0x10000 ≤ n

/- Whether a character ends a line. -/
def isBreak
    (c : Char) :
    Bool :=
  c ∈ ['\n', '\r', '\x85', '\u2028', '\u2029']

/- Whether a character is a space within a line. -/
def isSpace
    (c : Char) :
    Bool :=
  c == ' ' || c == '\t'

/- Whether a text begins with a space or a break, or is empty. -/
def atBlank
    (text : Text) :
    Bool :=
  match text with
  | [] => true
  | c :: _ => isSpace c || isBreak c

/- Whether a character is a bracket, a brace or a comma. -/
def isFlowIndicator
    (c : Char) :
    Bool :=
  c ∈ [',', '[', ']', '{', '}']

/- The mark that a text may begin with to tell its byte order. -/
def byteOrderMark : Char :=
  '\ufeff'

end Yaml

end LogLine

------------------------------------------------------------
-- Places
------------------------------------------------------------

namespace LogLine

namespace Yaml

/-
  What is left of a document, and where that begins: its line,
  the characters in front of it on that line, and the bytes in
  front of it in the document.
-/
structure Place where
  rest : Text
  line : Nat
  column : Nat
  offset : Nat
deriving DecidableEq, Repr

namespace Place

def start
    (text : Text) :
    Place :=
  ⟨text, 0, 0, 0⟩

/- The place behind some characters of the same line. -/
def skip
    (place : Place)
    (count : Nat) :
    Place :=
  { place with
    rest := place.rest.drop count
    column := place.column + count
    offset :=
      place.offset + Text.byteSize (place.rest.take count) }

/- The place behind characters of one kind. -/
def skipWhile
    (place : Place)
    (kind : Char → Bool) :
    Place :=
  place.skip (place.rest.takeWhile kind).length

/- The place behind spaces and tabs. -/
def skipSpaces
    (place : Place) :
    Place :=
  place.skipWhile isSpace

/- The place behind a line break; two characters may be one. -/
def skipBreak
    (place : Place) :
    Place :=
  match place.rest with
  | '\r' :: '\n' :: rest =>
      ⟨rest, place.line + 1, 0, place.offset + 2⟩
  | c :: rest =>
      ⟨rest, place.line + 1, 0, place.offset + c.utf8Size⟩
  | [] => place

/- The place behind a comment, if one starts here. -/
def skipComment
    (place : Place) :
    Place :=
  match place.rest with
  | '#' :: _ => place.skipWhile (fun c => !isBreak c)
  | _ => place

/- The place behind a byte order mark at the start of a line. -/
def skipMark
    (place : Place) :
    Place :=
  if place.column = 0 ∧
      place.rest.head? = some byteOrderMark then
    place.skip 1
  else
    place

/- Whether a line starts here with three dashes or dots alone. -/
def atMarker
    (place : Place) :
    Bool :=
  place.column == 0 &&
    match place.rest with
    | '-' :: '-' :: '-' :: rest => atBlank rest
    | '.' :: '.' :: '.' :: rest => atBlank rest
    | _ => false

end Place

end Yaml

end LogLine
