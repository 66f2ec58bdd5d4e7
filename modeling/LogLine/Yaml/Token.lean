import LogLine.Yaml.Scalar

/-
  The tokens of a YAML document.  The indentation of lines is
  turned into tokens for the start and the end of block
  collections, so that a grammar can do without it.

  A key is known only by the colon behind it.  Each token that
  could be the first one of a key is kept as a candidate until
  a colon makes it one or another token takes its turn.

  Key definitions include:
    * `LogLine.Yaml.Token`
    * `LogLine.Yaml.Candidate`
    * `LogLine.Yaml.Lexer`
    * `LogLine.Yaml.Lexer.step?`
    * `LogLine.Yaml.Token.ofText?`

  Anchors, aliases, tags, directives and block scalars are not
  read.
-/

------------------------------------------------------------
-- Tokens
------------------------------------------------------------

namespace LogLine

namespace Yaml

inductive Token where
  | documentStart
  | documentEnd
  | blockListStart
  | blockMapStart
  | blockEnd
  | listOpen
  | listClose
  | mapOpen
  | mapClose
  | comma
  | dash
  | key
  | value
  | plain (text : Text)
  | quoted (text : Text)
deriving DecidableEq, Repr

/-
  A token that may be the first one of a key: the number of
  tokens in front of it, the place where it stands, and
  whether the document is in error unless it is one.
-/
structure Candidate where
  index : Nat
  line : Nat
  column : Nat
  offset : Nat
  required : Bool
deriving DecidableEq, Repr

/-
  Whether a place is too far behind a candidate for a colon:
  on a later line, or behind more than 1024 bytes.
-/
def Candidate.isStale
    (candidate : Candidate)
    (place : Place) :
    Bool :=
  candidate.line < place.line ||
    candidate.offset + 1024 < place.offset

/-
  A reader in a document: the tokens read, with the last one
  first; the columns of the open block collections, with the
  innermost first; the candidate of the innermost collection
  and those of the collections around it, of which there is
  one for each open flow collection; and whether a key may
  start here.
-/
structure Lexer where
  place : Place
  tokens : List Token
  indents : List Nat
  candidate : Option Candidate
  outer : List (Option Candidate)
  keyAllowed : Bool
deriving DecidableEq, Repr

end Yaml

end LogLine

------------------------------------------------------------
-- Block Collections
------------------------------------------------------------

namespace LogLine

namespace Yaml

namespace Lexer

/- A reader in front of a whole document. -/
def start
    (text : Text) :
    Lexer :=
  { place := Place.start text
    tokens := []
    indents := []
    candidate := none
    outer := []
    keyAllowed := true }

/- Whether a flow collection is open. -/
def inFlow
    (lexer : Lexer) :
    Bool :=
  !lexer.outer.isEmpty

/- Whether the innermost block collection starts at a column. -/
def atIndent
    (lexer : Lexer)
    (column : Nat) :
    Bool :=
  lexer.indents.head? == some column

/- The least column of a line that goes on with a scalar. -/
def leastColumn
    (lexer : Lexer) :
    Nat :=
  match lexer.indents with
  | [] => 0
  | column :: _ => column + 1

/- Put a token in front of all but the first `index` tokens. -/
def insert
    (lexer : Lexer)
    (index : Nat)
    (token : Token) :
    Lexer :=
  let count := lexer.tokens.length - index
  { lexer with
    tokens :=
      lexer.tokens.take count ++
        token :: lexer.tokens.drop count }

/-
  Start a block collection in front of all but the first
  `index` tokens, unless one is open at the column or right
  of it.
-/
def openBlock
    (lexer : Lexer)
    (column : Nat)
    (index : Nat)
    (token : Token) :
    Lexer :=
  if lexer.inFlow ∨ column < lexer.leastColumn then
    lexer
  else
    { lexer.insert index token with
      indents := column :: lexer.indents }

/- End block collections from the innermost one outwards. -/
def closeBlocks
    (lexer : Lexer)
    (closed : Nat → Bool) :
    Lexer :=
  if lexer.inFlow then
    lexer
  else
    let ends :=
      (lexer.indents.takeWhile closed).map
        fun _ => Token.blockEnd
    { lexer with
      tokens := ends ++ lexer.tokens
      indents := lexer.indents.dropWhile closed }

end Lexer

end Yaml

end LogLine

------------------------------------------------------------
-- Candidates
------------------------------------------------------------

namespace LogLine

namespace Yaml

namespace Lexer

/- Give up the candidate; one that is required cannot be. -/
def dropCandidate?
    (lexer : Lexer) :
    Option Lexer :=
  match lexer.candidate with
  | none => some lexer
  | some candidate =>
      if candidate.required then
        none
      else
        some { lexer with candidate := none }

/-
  Make the next token a candidate where a key may start.  It
  is required at the column of an open block collection.
-/
def saveCandidate?
    (lexer : Lexer) :
    Option Lexer :=
  if lexer.keyAllowed then do
    let place := lexer.place
    let lexer ← lexer.dropCandidate?
    return { lexer with
      candidate := some
        { index := lexer.tokens.length
          line := place.line
          column := place.column
          offset := place.offset
          required :=
            !lexer.inFlow && lexer.atIndent place.column } }
  else
    some lexer

/- Give up all candidates that are too far away. -/
def dropStale?
    (lexer : Lexer) :
    Option Lexer :=
  let isStale (candidate : Candidate) : Bool :=
    candidate.isStale lexer.place
  let lost :=
    ((lexer.candidate :: lexer.outer).filterMap id).filter
      isStale
  if lost.any Candidate.required then
    none
  else
    let kept := Option.filter (fun c => !isStale c)
    some
      { lexer with
        candidate := kept lexer.candidate
        outer := lexer.outer.map kept }

end Lexer

end Yaml

end LogLine

------------------------------------------------------------
-- Blanks
------------------------------------------------------------

namespace LogLine

namespace Yaml

namespace Lexer

/-
  Go to the next token: over spaces, comments and line breaks.
  A key may start on each line that is not in a flow
  collection, and tabs count only where no key may start or in
  such a collection.
-/
def skipBlankFuel :
    Nat → Lexer → Lexer
  | 0, lexer => lexer
  | fuel + 1, lexer =>
      let counts (c : Char) : Bool :=
        c == ' ' ||
          c == '\t' && (lexer.inFlow || !lexer.keyAllowed)
      let behind :=
        (lexer.place.skipMark.skipWhile counts).skipComment
      match behind.rest with
      | c :: _ =>
          if isBreak c then
            skipBlankFuel fuel
              { lexer with
                place := behind.skipBreak
                keyAllowed :=
                  lexer.keyAllowed || !lexer.inFlow }
          else
            { lexer with place := behind }
      | [] => { lexer with place := behind }

/- Go to the next token. -/
def skipBlank
    (lexer : Lexer) :
    Lexer :=
  skipBlankFuel (lexer.place.rest.length + 1) lexer

end Lexer

end Yaml

end LogLine

------------------------------------------------------------
-- One Token at a Time
------------------------------------------------------------

namespace LogLine

namespace Yaml

namespace Lexer

/- Read a token of some characters. -/
def read
    (lexer : Lexer)
    (count : Nat)
    (token : Token) :
    Lexer :=
  { lexer with
    place := lexer.place.skip count
    tokens := token :: lexer.tokens }

/- Read a line of three dashes or dots. -/
def readMarker?
    (lexer : Lexer) :
    Option Lexer := do
  let token :=
    if lexer.place.rest.head? = some '-' then
      Token.documentStart
    else
      Token.documentEnd
  let lexer := lexer.closeBlocks fun _ => true
  let lexer ← lexer.dropCandidate?
  return { lexer.read 3 token with keyAllowed := false }

/- Read the bracket or brace that opens a flow collection. -/
def readOpen?
    (lexer : Lexer)
    (token : Token) :
    Option Lexer := do
  let lexer ← lexer.saveCandidate?
  return { lexer.read 1 token with
    candidate := none
    outer := lexer.candidate :: lexer.outer
    keyAllowed := true }

/- Read the bracket or brace that closes a flow collection. -/
def readClose?
    (lexer : Lexer)
    (token : Token) :
    Option Lexer := do
  let lexer ← lexer.dropCandidate?
  return { lexer.read 1 token with
    candidate := lexer.outer.head?.getD none
    outer := lexer.outer.tail
    keyAllowed := false }

/- Read the comma behind an item of a flow collection. -/
def readComma?
    (lexer : Lexer) :
    Option Lexer := do
  let lexer ← lexer.dropCandidate?
  return { lexer.read 1 .comma with keyAllowed := true }

/-
  Start a block collection at the token that comes next.  In
  a flow collection there is nothing to start.
-/
def startBlock?
    (lexer : Lexer)
    (token : Token) :
    Option Lexer :=
  if lexer.inFlow then
    some lexer
  else if lexer.keyAllowed then
    some
      (lexer.openBlock lexer.place.column
        lexer.tokens.length token)
  else
    none

/- Read the dash in front of an item of a block list. -/
def readDash?
    (lexer : Lexer) :
    Option Lexer := do
  let lexer ← lexer.startBlock? .blockListStart
  let lexer ← lexer.dropCandidate?
  return { lexer.read 1 .dash with keyAllowed := true }

/- Read the question mark in front of a key. -/
def readQuestion?
    (lexer : Lexer) :
    Option Lexer := do
  let lexer ← lexer.startBlock? .blockMapStart
  let lexer ← lexer.dropCandidate?
  return { lexer.read 1 .key with
    keyAllowed := !lexer.inFlow }

/-
  Read the colon in front of a value.  A candidate becomes a
  key by it; without one the key is left out, or stands behind
  a question mark.
-/
def readColon?
    (lexer : Lexer) :
    Option Lexer :=
  match lexer.candidate with
  | some candidate =>
      let lexer := lexer.insert candidate.index .key
      let lexer :=
        lexer.openBlock candidate.column candidate.index
          .blockMapStart
      some { lexer.read 1 .value with
        candidate := none
        keyAllowed := false }
  | none => do
      let lexer ← lexer.startBlock? .blockMapStart
      return { lexer.read 1 .value with
        keyAllowed := !lexer.inFlow }

/- Read a scalar between quotes. -/
def readQuoted?
    (lexer : Lexer)
    (scalar? : Place → Option (Text × Place)) :
    Option Lexer := do
  let lexer ← lexer.saveCandidate?
  let (text, behind) ← scalar? lexer.place
  return { lexer with
    place := behind
    tokens := .quoted text :: lexer.tokens
    keyAllowed := false }

/- Read a scalar without quotes. -/
def readPlain?
    (lexer : Lexer) :
    Option Lexer := do
  let lexer ← lexer.saveCandidate?
  let scalar ←
    plainScalar? lexer.inFlow lexer.leastColumn lexer.place
  return { lexer with
    place := scalar.behind
    tokens := .plain scalar.text :: lexer.tokens
    keyAllowed := scalar.endsLine }

/- Read the token that begins with a character. -/
def readToken?
    (lexer : Lexer)
    (c : Char)
    (rest : Text) :
    Option Lexer :=
  let isMark := lexer.inFlow || atBlank rest
  if lexer.place.atMarker then
    lexer.readMarker?
  else if c = '[' then
    lexer.readOpen? .listOpen
  else if c = '{' then
    lexer.readOpen? .mapOpen
  else if c = ']' then
    lexer.readClose? .listClose
  else if c = '}' then
    lexer.readClose? .mapClose
  else if c = ',' then
    lexer.readComma?
  else if c = '-' ∧ atBlank rest then
    lexer.readDash?
  else if c = '?' ∧ isMark then
    lexer.readQuestion?
  else if c = ':' ∧ isMark then
    lexer.readColon?
  else if c = '\'' then
    lexer.readQuoted? singleQuoted?
  else if c = '"' then
    lexer.readQuoted? doubleQuoted?
  else if startsPlain lexer.inFlow (c :: rest) then
    lexer.readPlain?
  else
    none

/- End the document: all block collections are closed. -/
def finish?
    (lexer : Lexer) :
    Option Lexer :=
  (lexer.closeBlocks fun _ => true).dropCandidate?

end Lexer

end Yaml

end LogLine

------------------------------------------------------------
-- Whole Documents
------------------------------------------------------------

namespace LogLine

namespace Yaml

namespace Lexer

/-
  Read up to the end of the document.  A line that is less
  indented than a block collection ends that.
-/
def run? :
    Nat → Lexer → Option Lexer
  | 0, _ => none
  | fuel + 1, lexer => do
      let lexer ← lexer.skipBlank.dropStale?
      let column := lexer.place.column
      let lexer := lexer.closeBlocks (column < ·)
      match lexer.place.rest with
      | [] => lexer.finish?
      | c :: rest =>
          let following ← lexer.readToken? c rest
          run? fuel following

end Lexer

/- The tokens of a document. -/
def Token.ofText?
    (text : Text) :
    Option (List Token) :=
  ((Lexer.start text).run? (text.length + 1)).map
    fun lexer => lexer.tokens.reverse

end Yaml

end LogLine
