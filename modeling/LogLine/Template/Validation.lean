import LogLine.Template.NamePattern
import LogLine.Template.Tokenizer

/-
  Checking a raw template before it is put to use.

  Key definitions include:
    * `LogLine.ValidationError`
    * `LogLine.Field.check`
    * `LogLine.Field.bareName`
    * `LogLine.ascendingNames`
    * `LogLine.validate`

  Key theorems include:
    * `LogLine.mem_ascendingNames`
    * `LogLine.ascendingNames_pairwise`
-/

------------------------------------------------------------
-- Faults
------------------------------------------------------------

namespace LogLine

/- Why a raw template cannot be put to use. -/
inductive ValidationError where
  | malformed (violation : SyntaxError)
  /- A name that is no word with attributes and indices. -/
  | invalidFieldName (name : Text)
  /- A conversion other than `r`, `s` and `a`. -/
  | invalidConversion (conversion : Char)
  /- A spec that does not have the shape of one. -/
  | invalidFormatSpec (spec : Text)
  /- No field has a name. -/
  | noFields
  /- Names that are not known, in ascending order. -/
  | unknownFields (names : List Text)
deriving DecidableEq, Repr

namespace ValidationError

def message : ValidationError → String
  | malformed violation =>
      "invalid template: " ++ violation.message
  | invalidFieldName name =>
      "invalid template: invalid field name/expression: " ++
        String.ofList name
  | invalidConversion conversion =>
      "invalid template: invalid conversion: " ++
        conversion.toString
  | invalidFormatSpec spec =>
      "invalid template: bad specifier: " ++ String.ofList spec
  | noFields => "invalid template: no fields"
  | unknownFields names =>
      "unknown fields (no record attribute or default): " ++
        String.ofList (Text.joined [',', ' '] names)

end ValidationError

end LogLine

------------------------------------------------------------
-- Ascending Names
------------------------------------------------------------

namespace LogLine

/- Put a name in its place unless it is there. -/
def insertName
    (name : Text) :
    List Text → List Text
  | [] => [name]
  | head :: rest =>
      if name < head then
        name :: head :: rest
      else if head = name then
        head :: rest
      else
        head :: insertName name rest

/- The names in ascending order, each of them once. -/
def ascendingNames
    (names : List Text) :
    List Text :=
  names.foldr insertName []

theorem mem_insertName
    {name other : Text}
    {names : List Text} :
    other ∈ insertName name names ↔
      other = name ∨ other ∈ names := by
  fun_induction insertName name names with
  | case1 => simp
  | case2 => simp
  | case3 => simp
  | case4 head rest _ _ ih =>
      simp only [List.mem_cons, ih]
      constructor
      · rintro (h | h | h)
        · exact Or.inr (Or.inl h)
        · exact Or.inl h
        · exact Or.inr (Or.inr h)
      · rintro (h | h | h)
        · exact Or.inr (Or.inl h)
        · exact Or.inl h
        · exact Or.inr (Or.inr h)

/- Ordering the names adds none and loses none. -/
theorem mem_ascendingNames
    {name : Text}
    {names : List Text} :
    name ∈ ascendingNames names ↔ name ∈ names := by
  induction names with
  | nil => simp [ascendingNames]
  | cons head rest ih =>
      show name ∈ insertName head (ascendingNames rest) ↔ _
      rw [mem_insertName, ih, List.mem_cons]

theorem pairwise_insertName
    {name : Text}
    {names : List Text}
    (hAscending : names.Pairwise (· < ·)) :
    (insertName name names).Pairwise (· < ·) := by
  fun_induction insertName name names with
  | case1 => exact List.pairwise_singleton _ _
  | case2 head rest hBelow =>
      refine List.pairwise_cons.mpr ⟨?_, hAscending⟩
      intro other hMem
      rcases List.mem_cons.mp hMem with rfl | hLater
      · exact hBelow
      · exact List.lt_trans hBelow
          ((List.pairwise_cons.mp hAscending).1 other hLater)
  | case3 => exact hAscending
  | case4 head rest hNotBelow hOther ih =>
      obtain ⟨hHead, hRest⟩ := List.pairwise_cons.mp hAscending
      refine List.pairwise_cons.mpr ⟨?_, ih hRest⟩
      intro other hMem
      rcases mem_insertName.mp hMem with rfl | hOld
      · rcases Std.lt_trichotomy head other with h | h | h
        · exact h
        · exact absurd h hOther
        · exact absurd h hNotBelow
      · exact hHead other hOld

/- The names are in strictly ascending order. -/
theorem ascendingNames_pairwise
    (names : List Text) :
    (ascendingNames names).Pairwise (· < ·) := by
  induction names with
  | nil => exact List.Pairwise.nil
  | cons head rest ih => exact pairwise_insertName ih

end LogLine

------------------------------------------------------------
-- Validation
------------------------------------------------------------

namespace LogLine

/- The conversions of templates that are put to use. -/
def conversions : List Char :=
  ['r', 's', 'a']

namespace Field

/- The name without the underscore that keeps colour off. -/
def bareName
    (field : Field) :
    Text :=
  field.name.dropInitial '_'

/- Check a field by itself: name, conversion, then spec. -/
def check
    (field : Field) :
    Except ValidationError Unit := do
  if !field.name.isEmpty && !isFieldName field.name then
    throw (.invalidFieldName field.name)
  if let some conversion := field.conversion then
    if conversion ∉ conversions then
      throw (.invalidConversion conversion)
  if let some spec := field.effectiveSpec then
    if !isSpecText spec then
      throw (.invalidFormatSpec spec)

end Field

/- The field of a token that is one. -/
def Token.field? : Token → Option Field
  | .literal _ => none
  | .field f => some f

/- The fields of a template that have a name. -/
def Scan.namedFields
    (read : Scan) :
    List Field :=
  (read.tokens.filterMap Token.field?).filter
    (fun field => !field.name.isEmpty)

/-
  Check a template whose names have to be in one of two lists.
  The leftmost fault of a single field is reported first, and
  unknown names are reported all together.
-/
def validate
    (raw : Text)
    (allowed extra : List Text) :
    Except ValidationError Unit := do
  let read := scan raw
  (read.tokens.filterMap Token.field?).forM Field.check
  if let some violation := read.violation then
    throw (.malformed violation)
  if read.namedFields.isEmpty then
    throw .noFields
  let unknown :=
    (read.namedFields.map Field.bareName).filter
      (fun name => name ∉ allowed ∧ name ∉ extra)
  if !unknown.isEmpty then
    throw (.unknownFields (ascendingNames unknown))

end LogLine
