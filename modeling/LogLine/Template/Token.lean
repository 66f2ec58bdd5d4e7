import LogLine.Text

/-
  Tokens of the bracket-field template grammar

    template = *( literal / field )
    field    = "{" [name] [ "!" conversion ] [ ":" spec ] "}"

  Key definitions include:
    * `LogLine.Field`
    * `LogLine.Token`
    * `LogLine.Field.write`
    * `LogLine.Token.unparse`
    * `LogLine.SyntaxError`

  A doubled brace stands for one literal brace.  A spec may
  hold fields of its own, so a field ends where its braces
  balance.
-/

------------------------------------------------------------
-- Fields and Tokens
------------------------------------------------------------

namespace LogLine

/-
  A field reference.  `spec` tells an empty spec, as in
  `{x:}`, from an absent one, and `offset` counts the bytes
  in front of the opening brace.
-/
structure Field where
  name : Text
  conversion : Option Char
  spec : Option Text
  offset : Nat
deriving DecidableEq, Repr

/- A piece of a template; a literal brace stands undoubled. -/
inductive Token where
  | literal (text : Text)
  | field (field : Field)
deriving DecidableEq, Repr

end LogLine

------------------------------------------------------------
-- Writing Fields
------------------------------------------------------------

namespace LogLine

namespace Field

/- The spec, if it is present and holds any character. -/
def effectiveSpec
    (field : Field) :
    Option Text :=
  field.spec.filter (fun spec => !spec.isEmpty)

/- Conversion and spec as they stand after the name. -/
def writeTail
    (conversion : Option Char)
    (spec : Option Text) :
    Text :=
  (match conversion with
    | none => []
    | some c => ['!', c]) ++
  (match spec with
    | none => []
    | some text => ':' :: text)

/- A field as template text. -/
def write
    (name : Text)
    (conversion : Option Char)
    (spec : Option Text) :
    Text :=
  '{' :: (name ++ writeTail conversion spec) ++ ['}']

/-
  The field under another name, with its conversion and its
  spec; an empty spec is left out.
-/
def writeRenamed
    (field : Field)
    (name : Text) :
    Text :=
  write name field.conversion field.effectiveSpec

/- The field as template text, without an empty spec. -/
def display
    (field : Field) :
    Text :=
  field.writeRenamed field.name

end Field

end LogLine

------------------------------------------------------------
-- Writing Tokens
------------------------------------------------------------

namespace LogLine

/- Literal text with every brace doubled. -/
def escapeBraces : Text → Text
  | [] => []
  | '{' :: rest => '{' :: '{' :: escapeBraces rest
  | '}' :: rest => '}' :: '}' :: escapeBraces rest
  | c :: rest => c :: escapeBraces rest

theorem escapeBraces_append
    (first second : Text) :
    escapeBraces (first ++ second) =
      escapeBraces first ++ escapeBraces second := by
  fun_induction escapeBraces first <;>
    simp_all [escapeBraces]

namespace Token

/- The template text that a token was read from. -/
def unparse : Token → Text
  | literal text => escapeBraces text
  | field f => Field.write f.name f.conversion f.spec

end Token

/- The template text that tokens were read from. -/
def unparse
    (tokens : List Token) :
    Text :=
  (tokens.map Token.unparse).flatten

end LogLine

------------------------------------------------------------
-- Violations of the Grammar
------------------------------------------------------------

namespace LogLine

/- Why a text is no template; positions count bytes. -/
inductive SyntaxError where
  /- A `}` outside of a field that is not doubled. -/
  | unmatchedClose (position : Nat)
  /- A `{` whose field never closes. -/
  | unclosedField (position : Nat)
  /- A `!` with nothing after it. -/
  | missingConversion (position : Nat)
  /- A conversion with something else than a spec after it. -/
  | conversionNotLast (position : Nat)
deriving DecidableEq, Repr

namespace SyntaxError

def message : SyntaxError → String
  | unmatchedClose position =>
      "single '\x7d' encountered in template at byte " ++
        toString position
  | unclosedField position =>
      "expected '\x7d' before end of template " ++
        "(field opened at byte " ++ toString position ++ ")"
  | missingConversion position =>
      "end of field while looking for conversion specifier " ++
        "at byte " ++ toString position
  | conversionNotLast position =>
      "expected ':' after conversion specifier at byte " ++
        toString position

/- The same violation `shift` bytes further on. -/
def shifted
    (shift : Nat) :
    SyntaxError → SyntaxError
  | unmatchedClose position => unmatchedClose (position + shift)
  | unclosedField position => unclosedField (position + shift)
  | missingConversion position =>
      missingConversion (position + shift)
  | conversionNotLast position =>
      conversionNotLast (position + shift)

end SyntaxError

end LogLine
