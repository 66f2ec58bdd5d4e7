import LogLine.Template.Marker
import LogLine.Proofs.Template.RoundTrip

/-
  Fields under other names.  Adding and removing markers
  writes fields again with their conversion and their spec,
  and what is written reads back as the renamed field.

  Key definitions include:
    * `LogLine.PlainName`
    * `LogLine.OnlyInIndex`
    * `LogLine.WritableName`
    * `LogLine.Field.renamed`
    * `LogLine.Token.uncolored`
    * `LogLine.Token.Writable`
    * `LogLine.Token.Renamable`

  Key theorems include:
    * `LogLine.Field.Readable.renamed`
    * `LogLine.Token.Writable.readable_renamed`
-/

------------------------------------------------------------
-- Plain Names
------------------------------------------------------------

namespace LogLine

/-
  A name that a template can write anywhere: it holds no
  brace, all its indices are closed, and it is no marker.
-/
structure PlainName
    (name : Text) : Prop where
  unbraced : ∀ c ∈ name, isBrace c = false
  closed : ¬ UnclosedIndex name
  unmarked : isMarker name = false

instance :
    DecidablePred PlainName :=
  fun name =>
    decidable_of_iff
      ((∀ c ∈ name, isBrace c = false) ∧
        ¬ UnclosedIndex name ∧ isMarker name = false)
      ⟨fun h => ⟨h.1, h.2.1, h.2.2⟩,
        fun h => ⟨h.unbraced, h.closed, h.unmarked⟩⟩

/- Every character of a class stands in an index. -/
def OnlyInIndex
    (inClass : Char → Bool)
    (text : Text) : Prop :=
  ∀ before c after,
    text = before ++ c :: after →
      inClass c = true → UnclosedIndex before

/-
  A name that reads back in a field with any conversion and
  any spec behind it.  Braces may stand in its indices if
  they balance there.
-/
structure WritableName
    (name : Text) : Prop where
  balanced : BracesBalanced name
  braces : OnlyInIndex isBrace name
  closed : ¬ UnclosedIndex name
  separators : SeparatorsInIndex name

theorem unclosedIndex_append
    (first second : Text) :
    UnclosedIndex (first ++ second) ↔
      (UnclosedIndex first ∧ ']' ∉ second) ∨
        UnclosedIndex second := by
  induction first with
  | nil => simp
  | cons c rest ih =>
      rw [List.cons_append, unclosedIndex_cons, ih,
        unclosedIndex_cons, List.mem_append, not_or]
      constructor
      · rintro (⟨hOpen, hRest, hSecond⟩ | ⟨hRest, hSecond⟩ | h)
        · exact Or.inl ⟨Or.inl ⟨hOpen, hRest⟩, hSecond⟩
        · exact Or.inl ⟨Or.inr hRest, hSecond⟩
        · exact Or.inr h
      · rintro (⟨⟨hOpen, hRest⟩ | hRest, hSecond⟩ | h)
        · exact Or.inl ⟨hOpen, hRest, hSecond⟩
        · exact Or.inr (Or.inl ⟨hRest, hSecond⟩)
        · exact Or.inr (Or.inr h)

namespace OnlyInIndex

variable {inClass : Char → Bool}

/- A text in no index does not start with such a character. -/
theorem head?_eq_false
    {text : Text}
    (hText : OnlyInIndex inClass text) :
    ∀ c ∈ text.head?, inClass c = false := by
  intro c hHead
  rcases List.head?_eq_some_iff.mp (Option.mem_def.mp hHead) with
    ⟨rest, rfl⟩
  rw [← Bool.not_eq_true]
  intro hClass
  exact not_unclosedIndex_nil (hText [] c rest rfl hClass)

/- A text without such characters has none outside of indices. -/
theorem of_forall
    {text : Text}
    (hNone : ∀ c ∈ text, inClass c = false) :
    OnlyInIndex inClass text := by
  rintro before c after rfl hClass
  rw [hNone c (List.mem_append_right _ List.mem_cons_self)]
    at hClass
  cases hClass

/- What stands in an index stays there behind another text. -/
theorem append
    {first second : Text}
    (hFirst : OnlyInIndex inClass first)
    (hSecond : OnlyInIndex inClass second) :
    OnlyInIndex inClass (first ++ second) := by
  intro before c after hAppend hClass
  rcases List.append_eq_append_iff.mp hAppend with
    ⟨middle, rfl, hTail⟩ | ⟨middle, hSplit, hTail⟩
  · have hOpen := hSecond middle c after hTail hClass
    exact (unclosedIndex_append first middle).mpr (Or.inr hOpen)
  · cases middle with
    | nil =>
        exact
          absurd (hSecond [] c after hTail.symm hClass)
            not_unclosedIndex_nil
    | cons d middle =>
        rw [List.cons_append, List.cons.injEq] at hTail
        rcases hTail with ⟨rfl, -⟩
        exact hFirst before c middle hSplit hClass

/- A character of no class can follow. -/
theorem append_singleton
    {text : Text}
    (hText : OnlyInIndex inClass text)
    {c : Char}
    (hOther : inClass c = false) :
    OnlyInIndex inClass (text ++ [c]) :=
  hText.append (of_forall (by simpa using hOther))

theorem dropFirst
    {c : Char}
    {rest : Text}
    (hText : OnlyInIndex inClass (c :: rest))
    (hOther : c ≠ '[') :
    OnlyInIndex inClass rest := by
  intro before d after hRest hClass
  have hBehind :=
    hText (c :: before) d after (by rw [hRest]; rfl) hClass
  rw [unclosedIndex_cons] at hBehind
  rcases hBehind with ⟨hOpen, -⟩ | hBefore
  · exact absurd hOpen hOther
  · exact hBefore

end OnlyInIndex

theorem PlainName.writable
    {name : Text}
    (hPlain : PlainName name)
    (hSeparators : SeparatorsInIndex name) :
    WritableName name where
  balanced := braceDepth_of_plain hPlain.unbraced 0
  braces := OnlyInIndex.of_forall hPlain.unbraced
  closed := hPlain.closed
  separators := hSeparators

end LogLine

------------------------------------------------------------
-- Renamed Fields
------------------------------------------------------------

namespace LogLine

namespace Field

/-
  The field under another name, with its conversion and its
  spec unless that is empty.
-/
def renamed
    (field : Field)
    (name : Text) :
    Field :=
  { field with name, spec := field.effectiveSpec }

/- A field of nothing but a name. -/
def named
    (name : Text) :
    Field :=
  ⟨name, none, none, 0⟩

theorem effectiveSpec_renamed
    (field : Field)
    (name : Text) :
    (field.renamed name).effectiveSpec =
      field.effectiveSpec := by
  rcases field with ⟨own, conversion, spec, offset⟩
  cases spec with
  | none => rfl
  | some text =>
      cases text with
      | nil => rfl
      | cons c rest => rfl

theorem writeRenamed_eq_unparse
    (field : Field)
    (name : Text) :
    field.writeRenamed name =
      (Token.field (field.renamed name)).unparse :=
  rfl

theorem write_eq_unparse_named
    (name : Text) :
    write name none none =
      (Token.field (named name)).unparse :=
  rfl

/- Leaving an empty spec out moves no brace. -/
theorem braceDepth_writeTail_effectiveSpec
    (field : Field) :
    braceDepth 0
        (writeTail field.conversion field.effectiveSpec) =
      braceDepth 0 (writeTail field.conversion field.spec) := by
  rcases field with ⟨name, conversion, spec, offset⟩
  cases spec with
  | none => rfl
  | some text =>
      cases text with
      | cons c rest => rfl
      | nil =>
          show braceDepth 0 (writeTail conversion none) =
            braceDepth 0 (writeTail conversion (some []))
          have hTail :
              writeTail conversion (some []) =
                writeTail conversion none ++ [':'] := by
            cases conversion <;> rfl
          rw [hTail, braceDepth_append]
          cases braceDepth 0 (writeTail conversion none) <;> rfl

/- Behind a balanced name the braces are those of the rest. -/
theorem braceDepth_body
    {field : Field}
    (hBalanced : BracesBalanced field.name) :
    braceDepth 0 field.body =
      braceDepth 0
        (writeTail field.conversion field.spec) := by
  unfold BracesBalanced at hBalanced
  rw [body, braceDepth_append, hBalanced]
  rfl

/- A name with braces in indices only starts with none. -/
theorem head?_body_ne_open
    {field : Field}
    (hBraces : OnlyInIndex isBrace field.name) :
    field.body.head? ≠ some '{' := by
  rcases field with ⟨name, conversion, spec, offset⟩
  cases name with
  | cons c rest =>
      intro hHead
      have hFirst := hBraces.head?_eq_false c rfl
      simp only [body, List.cons_append, List.head?_cons,
        Option.some.injEq] at hHead
      rw [hHead] at hFirst
      exact absurd hFirst (by decide)
  | nil =>
      cases conversion with
      | some c => simp [body, writeTail]
      | none => cases spec <;> simp [body, writeTail]

/-
  A readable field reads back under any writable name.  The
  braces of its own name must balance too, since they could
  close what the spec opens.
-/
theorem Readable.renamed
    {field : Field}
    (hReadable : field.Readable)
    (hOwn : BracesBalanced field.name)
    {name : Text}
    (hName : WritableName name) :
    (field.renamed name).Readable where
  balanced := by
    have hBalanced := hReadable.balanced
    unfold BracesBalanced at hBalanced ⊢
    rw [braceDepth_body hOwn] at hBalanced
    rw [braceDepth_body hName.balanced]
    exact
      (braceDepth_writeTail_effectiveSpec field).trans hBalanced
  opening := head?_body_ne_open hName.braces
  separators := hName.separators
  closed := fun _ => hName.closed

/- A writable name reads back by itself. -/
theorem readable_named
    {name : Text}
    (hName : WritableName name) :
    (named name).Readable where
  balanced := braceDepth_body hName.balanced
  opening := head?_body_ne_open hName.braces
  separators := hName.separators
  closed := fun _ => hName.closed

end Field

end LogLine

------------------------------------------------------------
-- Bare Names and Markers
------------------------------------------------------------

namespace LogLine

/- A text keeps all of its characters, or loses the first. -/
theorem Text.dropInitial_cases
    (c : Char)
    (text : Text) :
    (text.head? ≠ some c ∧ text.dropInitial c = text) ∨
    (∃ rest, text = c :: rest ∧ text.dropInitial c = rest) := by
  by_cases hHead : text.head? = some c
  · right
    rcases List.head?_eq_some_iff.mp hHead with ⟨rest, rfl⟩
    exact ⟨rest, rfl, if_pos rfl⟩
  · left
    exact ⟨hHead, Text.dropInitial_of_head?_ne hHead⟩

namespace WritableName

/- A writable name stays so without its underscore. -/
theorem dropInitial_underscore
    {name : Text}
    (hName : WritableName name) :
    WritableName (name.dropInitial '_') := by
  rcases name.dropInitial_cases '_' with
    ⟨-, hSame⟩ | ⟨rest, rfl, hRest⟩
  · rw [hSame]
    exact hName
  · rw [hRest]
    refine ⟨?_, ?_, ?_, ?_⟩
    · exact
        (braceDepth_cons_of_not_isBrace (by decide) 0
          rest).symm.trans hName.balanced
    · exact hName.braces.dropFirst (by decide)
    · intro hOpen
      exact hName.closed (Or.inr hOpen)
    · exact OnlyInIndex.dropFirst hName.separators (by decide)

/- A writable name stays so with an ordinary character behind. -/
theorem append_singleton
    {name : Text}
    (hName : WritableName name)
    {c : Char}
    (hBrace : isBrace c = false)
    (hOpen : c ≠ '[')
    (hSeparator : isSeparator c = false) :
    WritableName (name ++ [c]) where
  balanced := by
    have hBalanced := hName.balanced
    unfold BracesBalanced at hBalanced ⊢
    rw [braceDepth_append, hBalanced]
    exact braceDepth_cons_of_not_isBrace hBrace 0 []
  braces := hName.braces.append_singleton hBrace
  closed := by
    rw [unclosedIndex_append]
    rintro (⟨hUnclosed, -⟩ | hUnclosed)
    · exact hName.closed hUnclosed
    · simp [unclosedIndex_cons, hOpen] at hUnclosed
  separators :=
    OnlyInIndex.append_singleton hName.separators hSeparator

theorem enterMarker
    {name : Text}
    (hName : WritableName name) :
    WritableName (enterMarker name) :=
  hName.append_singleton (by decide) (by decide) (by decide)

theorem exitMarker
    {name : Text}
    (hName : WritableName name) :
    WritableName (exitMarker name) :=
  hName.append_singleton (by decide) (by decide) (by decide)

end WritableName

end LogLine

------------------------------------------------------------
-- Tokens Without Colour
------------------------------------------------------------

namespace LogLine

theorem Text.endsIn_of_dropInitial
    {c d : Char}
    {text : Text}
    (hEnds : (text.dropInitial d).endsIn c = true) :
    text.endsIn c = true := by
  cases text with
  | nil => exact hEnds
  | cons e rest =>
      by_cases hFirst : e = d
      · have hRest : Text.dropInitial d (e :: rest) = rest :=
          if_pos hFirst
        rw [hRest] at hEnds
        unfold Text.endsIn at hEnds ⊢
        rw [beq_iff_eq] at hEnds ⊢
        rw [List.getLast?_cons, hEnds]
        rfl
      · have hSame :
            Text.dropInitial d (e :: rest) = e :: rest :=
          if_neg hFirst
        rw [hSame] at hEnds
        exact hEnds

/- Without its underscore a name is no marker either. -/
theorem isMarker_dropInitial
    {name : Text}
    (hUnmarked : isMarker name = false)
    (c : Char) :
    isMarker (name.dropInitial c) = false := by
  unfold isMarker at hUnmarked ⊢
  rw [Bool.or_eq_false_iff] at hUnmarked ⊢
  constructor
  · apply Bool.eq_false_iff.mpr
    intro hEnds
    have hWhole := Text.endsIn_of_dropInitial hEnds
    rw [hUnmarked.1] at hWhole
    cases hWhole
  · apply Bool.eq_false_iff.mpr
    intro hEnds
    have hWhole := Text.endsIn_of_dropInitial hEnds
    rw [hUnmarked.2] at hWhole
    cases hWhole

namespace Token

/- Whether a token is a marker. -/
def isMarker : Token → Bool
  | literal _ => false
  | field f => LogLine.isMarker f.name

theorem isMarker_field
    (f : Field) :
    (field f).isMarker = LogLine.isMarker f.name :=
  rfl

@[simp]
theorem isMarker_placed
    (token : Token)
    (offset : Nat) :
    (token.placed offset).isMarker = token.isMarker := by
  cases token <;> rfl

/- The name of a field is plain; text has no name. -/
def Plain : Token → Prop
  | literal _ => True
  | field f => PlainName f.name

instance :
    DecidablePred Plain
  | literal _ => inferInstanceAs (Decidable True)
  | field f => inferInstanceAs (Decidable (PlainName f.name))

/-
  The token as it stands in a line: a field without its
  underscore and without an empty spec.
-/
def uncolored : Token → Token
  | literal text => literal text
  | field f => field (f.renamed (f.name.dropInitial '_'))

@[simp]
theorem isText_uncolored
    (token : Token) :
    token.uncolored.isText = token.isText := by
  cases token <;> rfl

/- A token that reads back under other names as well. -/
def Writable : Token → Prop
  | literal text => (literal text).Readable
  | field f => f.Readable ∧ WritableName f.name

namespace Writable

theorem name
    {f : Field}
    (hToken : (field f).Writable) :
    WritableName f.name :=
  hToken.2

theorem readable_renamed
    {f : Field}
    (hToken : (field f).Writable)
    {name : Text}
    (hName : WritableName name) :
    (field (f.renamed name)).Readable :=
  Field.Readable.renamed hToken.1 hToken.2.balanced hName

theorem readable_uncolored
    {token : Token}
    (hToken : token.Writable) :
    token.uncolored.Readable := by
  cases token with
  | literal text => exact hToken
  | field f =>
      exact hToken.readable_renamed
        hToken.name.dropInitial_underscore

end Writable

/- A writable token whose name is plain. -/
structure Renamable
    (token : Token) : Prop where
  readable : token.Readable
  plain : token.Plain

namespace Renamable

theorem writable
    {token : Token}
    (hToken : token.Renamable) :
    token.Writable := by
  cases token with
  | literal text => exact hToken.readable
  | field f =>
      have hReadable : f.Readable := hToken.readable
      have hPlain : PlainName f.name := hToken.plain
      exact ⟨hReadable, hPlain.writable hReadable.separators⟩

theorem readable_uncolored
    {token : Token}
    (hToken : token.Renamable) :
    token.uncolored.Readable :=
  hToken.writable.readable_uncolored

theorem isMarker_uncolored
    {token : Token}
    (hToken : token.Renamable) :
    token.uncolored.isMarker = false := by
  cases token with
  | literal text => rfl
  | field f =>
      have hPlain : PlainName f.name := hToken.plain
      exact isMarker_dropInitial hPlain.unmarked _

end Renamable

end Token

end LogLine
