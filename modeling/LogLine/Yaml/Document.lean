import LogLine.Yaml.Token

/-
  Documents from their tokens: block and flow collections of
  scalars.

  Key definitions include:
    * `LogLine.Yaml.flowNode?`
    * `LogLine.Yaml.blockNode?`
    * `LogLine.Yaml.Node.ofTokens?`
    * `LogLine.Yaml.Node.parse?`
-/

------------------------------------------------------------
-- Flow Collections
------------------------------------------------------------

namespace LogLine

namespace Yaml

/- Something read, together with the tokens behind it. -/
abbrev Read (α : Type) :=
  α × List Token

/- A node that is left out. -/
def Node.empty : Node :=
  Node.plain []

mutual

/- A collection between brackets, or a scalar. -/
def flowNode? :
    Nat → List Token → Option (Read Node)
  | 0, _ => none
  | fuel + 1, tokens =>
      match tokens with
      | .plain text :: behind => some (Node.plain text, behind)
      | .quoted text :: behind =>
          some (Node.quoted text, behind)
      | .listOpen :: inside => do
          let (items, behind) ← flowItems? fuel inside
          return (.list items, behind)
      | .mapOpen :: inside => do
          let (entries, behind) ← flowEntries? fuel inside
          return (.map entries, behind)
      | _ => none

/- The value of a key; it may be left out with its colon or not. -/
def flowValue? :
    Nat → List Token → Option (Read Node)
  | 0, _ => none
  | fuel + 1, tokens =>
      match tokens with
      | .value :: behind =>
          match behind with
          | .comma :: _ | .listClose :: _ | .mapClose :: _ =>
              some (Node.empty, behind)
          | _ => flowNode? fuel behind
      | _ => some (Node.empty, tokens)

/-
  An item of a list.  A key there is a mapping of its own; one
  that is left out takes the token in its place with it.
-/
def flowItem? :
    Nat → List Token → Option (Read Node)
  | 0, _ => none
  | fuel + 1, tokens =>
      match tokens with
      | .key :: inside => do
          let (key, behind) ←
            match inside with
            | .value :: behind => some (Node.empty, behind)
            | .comma :: behind => some (Node.empty, behind)
            | .listClose :: behind => some (Node.empty, behind)
            | _ => flowNode? fuel inside
          let (value, last) ← flowValue? fuel behind
          return (.map [(key, value)], last)
      | _ => flowNode? fuel tokens

/- The items up to a closing bracket. -/
def flowItems? :
    Nat → List Token → Option (Read (List Node))
  | 0, _ => none
  | fuel + 1, tokens =>
      match tokens with
      | .listClose :: behind => some ([], behind)
      | _ => do
          let (item, behind) ← flowItem? fuel tokens
          match behind with
          | .comma :: others =>
              let (items, last) ← flowItems? fuel others
              return (item :: items, last)
          | .listClose :: last => return ([item], last)
          | _ => none

/- An entry of a mapping: a key with a value, or a value alone. -/
def flowEntry? :
    Nat → List Token → Option (Read (Node × Node))
  | 0, _ => none
  | fuel + 1, tokens =>
      match tokens with
      | .key :: inside => do
          let (key, behind) ←
            match inside with
            | .value :: _ | .comma :: _ | .mapClose :: _ =>
                some (Node.empty, inside)
            | _ => flowNode? fuel inside
          let (value, last) ← flowValue? fuel behind
          return ((key, value), last)
      | _ => do
          let (key, behind) ← flowNode? fuel tokens
          return ((key, Node.empty), behind)

/- The entries up to a closing brace. -/
def flowEntries? :
    Nat → List Token → Option (Read (List (Node × Node)))
  | 0, _ => none
  | fuel + 1, tokens =>
      match tokens with
      | .mapClose :: behind => some ([], behind)
      | _ => do
          let (entry, behind) ← flowEntry? fuel tokens
          match behind with
          | .comma :: others =>
              let (entries, last) ← flowEntries? fuel others
              return (entry :: entries, last)
          | .mapClose :: last => return ([entry], last)
          | _ => none

end

end Yaml

end LogLine

------------------------------------------------------------
-- Block Collections
------------------------------------------------------------

namespace LogLine

namespace Yaml

mutual

/- A node of a block collection or of a document. -/
def blockNode? :
    Nat → List Token → Option (Read Node)
  | 0, _ => none
  | fuel + 1, tokens =>
      match tokens with
      | .blockListStart :: inside => do
          let (items, behind) ← blockItems? fuel inside
          match behind with
          | .blockEnd :: last => return (.list items, last)
          | _ => none
      | .blockMapStart :: inside => do
          let (entries, behind) ← blockEntries? fuel inside
          match behind with
          | .blockEnd :: last => return (.map entries, last)
          | _ => none
      | _ => flowNode? fuel tokens

/- An item of a list; it may be left out. -/
def blockItem? :
    Nat → List Token → Option (Read Node)
  | 0, _ => none
  | fuel + 1, tokens =>
      match tokens with
      | .dash :: _ | .key :: _ | .value :: _ | .blockEnd :: _ =>
          some (Node.empty, tokens)
      | _ => blockNode? fuel tokens

/- The items of a list, as long as dashes follow. -/
def blockItems? :
    Nat → List Token → Option (Read (List Node))
  | 0, _ => none
  | fuel + 1, tokens =>
      match tokens with
      | .dash :: inside => do
          let (item, behind) ← blockItem? fuel inside
          let (items, last) ← blockItems? fuel behind
          return (item :: items, last)
      | _ => some ([], tokens)

/-
  A key or a value.  It may be left out, and a list in it need
  not be indented.
-/
def blockPart? :
    Nat → List Token → Option (Read Node)
  | 0, _ => none
  | fuel + 1, tokens =>
      match tokens with
      | .key :: _ | .value :: _ | .blockEnd :: _ =>
          some (Node.empty, tokens)
      | .dash :: _ => do
          let (items, behind) ← blockItems? fuel tokens
          return (.list items, behind)
      | _ => blockNode? fuel tokens

/- The entries of a mapping, as long as keys follow. -/
def blockEntries? :
    Nat → List Token → Option (Read (List (Node × Node)))
  | 0, _ => none
  | fuel + 1, tokens =>
      match tokens with
      | .key :: inside => do
          let (key, behind) ← blockPart? fuel inside
          let (value, onward) ←
            match behind with
            | .value :: inside => blockPart? fuel inside
            | _ => some (Node.empty, behind)
          let (entries, last) ← blockEntries? fuel onward
          return ((key, value) :: entries, last)
      | _ => some ([], tokens)

end

end Yaml

end LogLine

------------------------------------------------------------
-- Documents
------------------------------------------------------------

namespace LogLine

namespace Yaml

/-
  The node of a document that starts with its node or with a
  marker.  The steps of reading are fewer than four for each
  token.
-/
def documentNode?
    (tokens : List Token) :
    Option (Read Node) :=
  let fuel := 4 * tokens.length + 4
  match tokens with
  | .documentStart :: inside =>
      match inside with
      | [] | .documentStart :: _ | .documentEnd :: _ =>
          some (Node.empty, inside)
      | _ => blockNode? fuel inside
  | _ => blockNode? fuel tokens

/- The node of tokens that are one document. -/
def Node.ofTokens?
    (tokens : List Token) :
    Option Node := do
  let (node, behind) ← documentNode? tokens
  if behind.all (· == Token.documentEnd) then
    return node
  else
    none

/- The node of a text that is one document. -/
def Node.parse?
    (text : Text) :
    Option Node :=
  if text.all isAllowed then
    (Token.ofText? text).bind Node.ofTokens?
  else
    none

end Yaml

end LogLine
