import LogLine.Text

/-
  The last component of a slash-separated path, and its name
  without the extension.

  Key definitions include:
    * `LogLine.Path.components`
    * `LogLine.Path.fileName?`
    * `LogLine.Path.fileStem?`
-/

------------------------------------------------------------
-- Components
------------------------------------------------------------

namespace LogLine

namespace Path

/- The texts between slashes. -/
def pieces : Text → List Text
  | [] => [[]]
  | c :: rest =>
      match pieces rest with
      | [] => [[c]]
      | piece :: more =>
          if c = '/' then
            [] :: piece :: more
          else
            (c :: piece) :: more

/- The pieces that name something: no empty ones and no dots. -/
def components
    (path : Text) :
    List Text :=
  (pieces path).filter (fun piece => piece ≠ [] ∧ piece ≠ ['.'])

/- The last component, unless it leads to the parent. -/
def fileName?
    (path : Text) :
    Option Text :=
  (components path).getLast?.filter
    (fun name => name ≠ ['.', '.'])

/- The text in front of the last dot, and whether there is one. -/
def beforeLastDot
    (name : Text) :
    Option Text :=
  if '.' ∈ name then
    some (name.reverse.dropWhile (· ≠ '.')).tail.reverse
  else
    none

/- The name without its extension; a leading dot is part of it. -/
def stem
    (name : Text) :
    Text :=
  match beforeLastDot name with
  | none | some [] => name
  | some (c :: rest) => c :: rest

/- The stem of the last component. -/
def fileStem?
    (path : Text) :
    Option Text :=
  (fileName? path).map stem

end Path

end LogLine
