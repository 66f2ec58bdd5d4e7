import LogLine.Proofs.Template.MarkerPairs

/-
  Templates without colour as a normal form: taking colour
  away a second time changes nothing, and markers that are
  added are taken away again.

  Key definitions include:
    * `LogLine.SettledName`
    * `LogLine.Token.Settled`
    * `LogLine.Token.Colorless`
    * `LogLine.plainText`

  Key theorems include:
    * `LogLine.stripColor_unparse`
    * `LogLine.MarkedUp.plainText_eq`
    * `LogLine.exists_markedUp`
    * `LogLine.plainText_eq_unparse_iff`
    * `LogLine.stripColor_normal_form`
-/

------------------------------------------------------------
-- Settled Names
------------------------------------------------------------

namespace LogLine

/-
  A plain name that stands for the same field once its
  underscore is gone: no other underscore is left in front,
  and what is left names no group field.
-/
structure SettledName
    (name : Text) : Prop where
  plain : PlainName name
  single : ¬ ['_', '_'] <+: name
  notEnter : name ≠ '_' :: enterName
  notExit : name ≠ '_' :: exitName

instance :
    DecidablePred SettledName :=
  fun name =>
    decidable_of_iff
      (PlainName name ∧ ¬ ['_', '_'] <+: name ∧
        name ≠ '_' :: enterName ∧ name ≠ '_' :: exitName)
      ⟨fun h => ⟨h.1, h.2.1, h.2.2.1, h.2.2.2⟩,
        fun h => ⟨h.plain, h.single, h.notEnter, h.notExit⟩⟩

theorem PlainName.dropInitial_underscore
    {name : Text}
    (hPlain : PlainName name) :
    PlainName (name.dropInitial '_') where
  unbraced := by
    rcases name.dropInitial_cases '_' with
      ⟨-, hSame⟩ | ⟨rest, rfl, hRest⟩
    · rw [hSame]
      exact hPlain.unbraced
    · rw [hRest]
      exact (List.forall_mem_cons.mp hPlain.unbraced).2
  closed := by
    rcases name.dropInitial_cases '_' with
      ⟨-, hSame⟩ | ⟨rest, rfl, hRest⟩
    · rw [hSame]
      exact hPlain.closed
    · rw [hRest]
      exact fun hOpen => hPlain.closed (Or.inr hOpen)
  unmarked := isMarker_dropInitial hPlain.unmarked '_'

namespace SettledName

variable {name : Text}

/- A second underscore would have to be dropped as well. -/
theorem head?_dropInitial
    (hName : SettledName name) :
    (name.dropInitial '_').head? ≠ some '_' := by
  rcases name.dropInitial_cases '_' with
    ⟨hHead, hSame⟩ | ⟨rest, rfl, hRest⟩
  · rw [hSame]
    exact hHead
  · rw [hRest]
    intro hHead
    rcases List.head?_eq_some_iff.mp hHead with ⟨behind, rfl⟩
    exact hName.single ⟨behind, rfl⟩

/- Without its underscore a settled name is settled. -/
theorem dropInitial_underscore
    (hName : SettledName name) :
    SettledName (name.dropInitial '_') where
  plain := hName.plain.dropInitial_underscore
  single := by
    rintro ⟨behind, hBehind⟩
    apply hName.head?_dropInitial
    rw [← hBehind]
    rfl
  notEnter := by
    intro hEnter
    apply hName.head?_dropInitial
    rw [hEnter]
    rfl
  notExit := by
    intro hExit
    apply hName.head?_dropInitial
    rw [hExit]
    rfl

/- The name of a group field does not come up. -/
theorem dropInitial_ne_group
    (hName : SettledName name)
    (hGroup : name ≠ enterName ∧ name ≠ exitName) :
    name.dropInitial '_' ≠ enterName ∧
      name.dropInitial '_' ≠ exitName := by
  rcases name.dropInitial_cases '_' with
    ⟨-, hSame⟩ | ⟨rest, rfl, hRest⟩
  · rw [hSame]
    exact hGroup
  · rw [hRest]
    constructor
    · intro hEnter
      exact hName.notEnter (by rw [hEnter])
    · intro hExit
      exact hName.notExit (by rw [hExit])

end SettledName

end LogLine

------------------------------------------------------------
-- Settled Tokens
------------------------------------------------------------

namespace LogLine

namespace Token

/- The name of a field is settled; text has no name. -/
def Settled : Token → Prop
  | literal _ => True
  | field f => SettledName f.name

instance :
    DecidablePred Settled
  | literal _ => inferInstanceAs (Decidable True)
  | field f => inferInstanceAs (Decidable (SettledName f.name))

namespace Settled

variable {token : Token}

theorem plain
    (hToken : token.Settled) :
    token.Plain := by
  cases token with
  | literal text => exact trivial
  | field f =>
      have hName : SettledName f.name := hToken
      exact hName.plain

theorem isMarker
    (hToken : token.Settled) :
    token.isMarker = false := by
  cases token with
  | literal text => rfl
  | field f =>
      have hName : SettledName f.name := hToken
      exact hName.plain.unmarked

theorem uncolored
    (hToken : token.Settled) :
    token.uncolored.Settled := by
  cases token with
  | literal text => exact trivial
  | field f =>
      have hName : SettledName f.name := hToken
      exact hName.dropInitial_underscore

/- A token that bounds no group bounds none afterwards. -/
theorem isBoundary_uncolored
    (hToken : token.Settled)
    (hInside : token.isBoundary = false) :
    token.uncolored.isBoundary = false := by
  cases token with
  | literal text => rfl
  | field f =>
      have hName : SettledName f.name := hToken
      rw [← Bool.not_eq_true, isBoundary_field_iff,
        not_or] at hInside
      have hBare := hName.dropInitial_ne_group hInside
      rw [← Bool.not_eq_true, Token.uncolored,
        isBoundary_field_iff, not_or]
      exact hBare

/- There is nothing left to take away. -/
theorem uncolored_uncolored
    (hToken : token.Settled) :
    token.uncolored.uncolored = token.uncolored := by
  cases token with
  | literal text => rfl
  | field f =>
      have hName : SettledName f.name := hToken
      have hBare :=
        Text.dropInitial_of_head?_ne hName.head?_dropInitial
      have hSpec :=
        f.effectiveSpec_renamed (f.name.dropInitial '_')
      unfold Token.uncolored Field.renamed
      unfold Field.renamed at hSpec
      simp only [hBare, hSpec]

/- What stays of a token stays a second time. -/
theorem plain_uncolored
    (hToken : token.Settled)
    (hInside : token.isBoundary = false) :
    token.uncolored.plain = token.plain := by
  have hVisible : token.isVisible = true := by
    rw [isVisible_eq_not_isBoundary hToken.plain, hInside]
    rfl
  have hStill : token.uncolored.isVisible = true := by
    rw [isVisible_eq_not_isBoundary hToken.uncolored.plain,
      hToken.isBoundary_uncolored hInside]
    rfl
  rw [plain_of_isVisible hStill, plain_of_isVisible hVisible,
    hToken.uncolored_uncolored]

end Settled

end Token

end LogLine

------------------------------------------------------------
-- Text That Stays
------------------------------------------------------------

namespace LogLine

/- The text of tokens without their colour. -/
def plainText
    (tokens : List Token) :
    Text :=
  (tokens.map Token.plain).flatten

@[simp]
theorem plainText_nil :
    plainText [] = [] :=
  rfl

@[simp]
theorem plainText_cons
    (token : Token)
    (rest : List Token) :
    plainText (token :: rest) = token.plain ++ plainText rest :=
  rfl

@[simp]
theorem plainText_append
    (first second : List Token) :
    plainText (first ++ second) =
      plainText first ++ plainText second := by
  simp [plainText]

@[simp]
theorem Token.plain_placed
    (token : Token)
    (offset : Nat) :
    (token.placed offset).plain = token.plain := by
  cases token <;> rfl

@[simp]
theorem plainText_placeTokens
    (offset : Nat)
    (tokens : List Token) :
    plainText (placeTokens offset tokens) =
      plainText tokens := by
  induction tokens generalizing offset with
  | nil => rfl
  | cons token rest ih =>
      rw [placeTokens, plainText_cons, ih, Token.plain_placed,
        plainText_cons]

@[simp]
theorem plainText_joinTo
    (token : Token)
    (tokens : List Token) :
    plainText (token.joinTo tokens) =
      token.plain ++ plainText tokens := by
  rcases token.joinTo_cases tokens with
    ⟨hEq, -⟩ | ⟨first, second, rest, rfl, rfl, -, -, hEq⟩
  · rw [hEq, plainText_cons]
  · rw [hEq]
    simp [Token.plain, escapeBraces_append]

@[simp]
theorem plainText_joinText
    (tokens : List Token) :
    plainText (joinText tokens) = plainText tokens := by
  induction tokens with
  | nil => rfl
  | cons token rest ih =>
      show plainText (token.joinTo (joinText rest)) = _
      rw [plainText_joinTo, ih, plainText_cons]

theorem stripColor_eq_plainText
    {raw : Text}
    {tokens : List Token}
    (hRead : tokenize raw = .ok tokens) :
    stripColor raw = .ok (plainText tokens) := by
  rw [stripColor_eq_ok_iff]
  exact ⟨tokens, hRead, Token.flatten_map_plain tokens⟩

/- How written tokens are read again has no part in what stays. -/
theorem stripColor_unparse
    {tokens : List Token}
    (hReadable : ∀ token ∈ tokens, token.Readable) :
    stripColor (unparse tokens) = .ok (plainText tokens) := by
  rw [stripColor_eq_plainText (tokenize_unparse hReadable),
    plainText_placeTokens, plainText_joinText]

/- Tokens that bound no group lose nothing more. -/
theorem plainText_map_uncolored
    {tokens : List Token}
    (hSettled : ∀ token ∈ tokens, token.Settled)
    (hInside : ∀ token ∈ tokens, token.isBoundary = false) :
    plainText (tokens.map Token.uncolored) =
      plainText tokens := by
  induction tokens with
  | nil => rfl
  | cons token rest ih =>
      rw [List.forall_mem_cons] at hSettled hInside
      rw [List.map_cons, plainText_cons, plainText_cons,
        hSettled.1.plain_uncolored hInside.1,
        ih hSettled.2 hInside.2]

end LogLine

------------------------------------------------------------
-- Markers Taken Away Again
------------------------------------------------------------

namespace LogLine

namespace Token

theorem plain_of_isMarker
    {f : Field}
    (hMarker : LogLine.isMarker f.name = true) :
    (field f).plain = [] :=
  if_pos (Or.inr (Or.inr hMarker))

theorem plain_of_isBoundary
    {f : Field}
    (hBoundary : (field f).isBoundary = true) :
    (field f).plain = [] := by
  rcases (isBoundary_field_iff f).mp hBoundary with
    hEnter | hExit
  · exact if_pos (Or.inl hEnter)
  · exact if_pos (Or.inr (Or.inl hExit))

end Token

/- Without its markers a marked-up list is the raw one. -/
theorem MarkedUp.plainText_eq
    {raw out : List Token}
    (hMarked : MarkedUp raw out)
    (hSettled : ∀ token ∈ raw, token.Settled) :
    plainText out = plainText raw := by
  induction hMarked with
  | nil => rfl
  | copied hInside _ _ ih =>
      rw [List.forall_mem_cons] at hSettled
      rw [plainText_cons, plainText_cons, ih hSettled.2,
        hSettled.1.plain_uncolored hInside]
  | @single f raw out hRole _ ih =>
      rw [List.forall_mem_cons] at hSettled
      have hOpener :
          (Token.field
            (Field.named (enterMarker f.name))).plain = [] :=
        Token.plain_of_isMarker (isMarker_enterMarker f.name)
      have hCloser :
          (Token.field
            (Field.named (exitMarker f.name))).plain = [] :=
        Token.plain_of_isMarker (isMarker_exitMarker f.name)
      have hShown :=
        hSettled.1.plain_uncolored
          (Token.isBoundary_of_marked hRole)
      simp only [plainText_cons, hOpener, hCloser, hShown,
        ih hSettled.2, List.nil_append]
  | @group enter exit name inside raw out hEnter hExit hInside
      _ _ ih =>
      simp only [List.forall_mem_cons,
        List.forall_mem_append] at hSettled
      rcases hSettled with ⟨-, hTokens, -, hRest⟩
      have hOpens : (Token.field enter).plain = [] :=
        Token.plain_of_isBoundary
          (by simp [Token.isBoundary, hEnter])
      have hCloses : (Token.field exit).plain = [] :=
        Token.plain_of_isBoundary
          (by simp [Token.isBoundary, hExit])
      have hOpener :
          (Token.field
            (enter.renamed (enterMarker name))).plain = [] :=
        Token.plain_of_isMarker (isMarker_enterMarker name)
      have hCloser :
          (Token.field
            (exit.renamed (exitMarker name))).plain = [] :=
        Token.plain_of_isMarker (isMarker_exitMarker name)
      simp only [plainText_cons, plainText_append, hOpens,
        hCloses, hOpener, hCloser, ih hRest,
        plainText_map_uncolored hTokens hInside]

/- Without groups, markers can always be added. -/
theorem exists_markedUp
    {tokens : List Token}
    (hInside : ∀ token ∈ tokens, token.isBoundary = false) :
    ∃ out, MarkedUp tokens out := by
  induction tokens with
  | nil => exact ⟨[], MarkedUp.nil⟩
  | cons token rest ih =>
      rw [List.forall_mem_cons] at hInside
      rcases ih hInside.2 with ⟨out, hOut⟩
      rcases token.kinds with
        ⟨hCopied, hColor⟩ | ⟨f, rfl, hRole⟩ | ⟨f, rfl, hRole⟩ |
          ⟨f, rfl, hRole⟩
      · exact ⟨_, MarkedUp.copied hCopied hColor hOut⟩
      · exact ⟨_, MarkedUp.single hRole hOut⟩
      · simp [Token.isBoundary, hRole] at hInside
      · simp [Token.isBoundary, hRole] at hInside

theorem renamable_of_settled
    {raw : Text}
    {tokens : List Token}
    (hRead : tokenize raw = .ok tokens)
    (hSettled : ∀ token ∈ tokens, token.Settled) :
    ∀ token ∈ tokens, token.Renamable := by
  have hCanonical := ((tokenize_eq_ok_iff raw tokens).mp hRead).2.1
  intro token hMem
  exact
    ⟨hCanonical.readable token hMem, (hSettled token hMem).plain⟩

/- Colour taken away after markers were added is that taken away. -/
theorem stripColor_of_compile
    {raw compiled : Text}
    {tokens : List Token}
    (hRead : tokenize raw = .ok tokens)
    (hSettled : ∀ token ∈ tokens, token.Settled)
    (hCompile : compile raw = .ok compiled) :
    stripColor compiled = .ok (plainText tokens) := by
  rcases (compile_eq_ok_iff raw compiled).mp hCompile with
    ⟨found, out, hFound, hMarked, rfl⟩
  rw [hRead] at hFound
  cases hFound
  have hRenamable := renamable_of_settled hRead hSettled
  rw [stripColor_unparse (hMarked.readable hRenamable),
    hMarked.plainText_eq hSettled]

end LogLine

------------------------------------------------------------
-- Templates without Colour
------------------------------------------------------------

namespace LogLine

/- A token that loses nothing when colour is taken away. -/
def Token.Colorless : Token → Prop
  | literal _ => True
  | field f =>
      f.name ≠ enterName ∧ f.name ≠ exitName ∧
        f.name.head? ≠ some '_' ∧ f.spec ≠ some []

namespace Field

theorem length_write
    (name : Text)
    (conversion : Option Char)
    (spec : Option Text) :
    (write name conversion spec).length =
      name.length + (writeTail conversion spec).length + 2 := by
  simp only [write, List.length_cons, List.length_append,
    List.length_nil]

/- Only an empty spec is left out, with its colon. -/
theorem effectiveSpec_cases
    (f : Field) :
    (f.spec ≠ some [] ∧ f.effectiveSpec = f.spec) ∨
    (f.spec = some [] ∧
      (writeTail f.conversion f.effectiveSpec).length + 1 =
        (writeTail f.conversion f.spec).length) := by
  rcases f with ⟨name, conversion, spec, offset⟩
  cases spec with
  | none => exact Or.inl ⟨by simp, rfl⟩
  | some text =>
      cases text with
      | cons c rest => exact Or.inl ⟨by simp, rfl⟩
      | nil =>
          refine Or.inr ⟨rfl, ?_⟩
          cases conversion <;> rfl

end Field

namespace Token

/- A token that is no marker keeps its text, or is shortened. -/
theorem plain_cases
    {token : Token}
    (hUnmarked : token.isMarker = false) :
    (token.Colorless ∧ token.plain = token.unparse) ∨
    (¬ token.Colorless ∧
      token.plain.length < token.unparse.length) := by
  cases token with
  | literal text => exact Or.inl ⟨trivial, rfl⟩
  | field f =>
      have hLength :=
        Field.length_write f.name f.conversion f.spec
      by_cases hGroup : (field f).isBoundary = true
      · right
        rw [plain_of_isBoundary hGroup]
        rw [isBoundary_field_iff] at hGroup
        constructor
        · rintro ⟨hEnter, hExit, -, -⟩
          exact hGroup.elim hEnter hExit
        · show 0 < (Field.write _ _ _).length
          omega
      · rw [isBoundary_field_iff, not_or] at hGroup
        have hPlain :
            (field f).plain =
              f.writeRenamed (f.name.dropInitial '_') := by
          refine if_neg ?_
          rintro (hEnter | hExit | hMarker)
          · exact hGroup.1 hEnter
          · exact hGroup.2 hExit
          · rw [isMarker_field, hMarker] at hUnmarked
            cases hUnmarked
        have hBare :=
          Field.length_write (f.name.dropInitial '_')
            f.conversion f.effectiveSpec
        rw [hPlain]
        show _ ∨ (_ ∧ (Field.write _ _ _).length <
          (Field.write _ _ _).length)
        rcases f.name.dropInitial_cases '_' with
          ⟨hHead, hSame⟩ | ⟨rest, hName, hRest⟩
        · rcases f.effectiveSpec_cases with
            ⟨hSpec, hKept⟩ | ⟨hSpec, hShorter⟩
          · left
            refine ⟨⟨hGroup.1, hGroup.2, hHead, hSpec⟩, ?_⟩
            rw [Field.writeRenamed, hSame, hKept]
            rfl
          · right
            refine ⟨fun hColorless => hColorless.2.2.2 hSpec, ?_⟩
            rw [hSame] at hBare
            rw [hSame]
            omega
        · right
          constructor
          · intro hColorless
            exact hColorless.2.2.1 (by rw [hName]; rfl)
          · have hFewer : rest.length < f.name.length := by
              rw [hName]
              exact Nat.lt_succ_self rest.length
            rw [hRest] at hBare
            rw [hRest]
            rcases f.effectiveSpec_cases with
              ⟨-, hKept⟩ | ⟨-, hShorter⟩
            · rw [hKept] at hBare ⊢
              omega
            · omega

end Token

theorem length_plainText_le
    {tokens : List Token}
    (hUnmarked : ∀ token ∈ tokens, token.isMarker = false) :
    (plainText tokens).length ≤ (unparse tokens).length := by
  induction tokens with
  | nil => exact Nat.le_refl 0
  | cons token rest ih =>
      rw [List.forall_mem_cons] at hUnmarked
      have hRest := ih hUnmarked.2
      rw [plainText_cons, unparse_cons, List.length_append,
        List.length_append]
      rcases Token.plain_cases hUnmarked.1 with
        ⟨-, hSame⟩ | ⟨-, hShorter⟩
      · rw [hSame]
        omega
      · omega

/- Nothing is lost only if no token loses anything. -/
theorem plainText_eq_unparse_iff
    {tokens : List Token}
    (hUnmarked : ∀ token ∈ tokens, token.isMarker = false) :
    plainText tokens = unparse tokens ↔
      ∀ token ∈ tokens, token.Colorless := by
  induction tokens with
  | nil => simp
  | cons token rest ih =>
      rw [List.forall_mem_cons] at hUnmarked
      rw [plainText_cons, unparse_cons, List.forall_mem_cons,
        ← ih hUnmarked.2]
      rcases Token.plain_cases hUnmarked.1 with
        ⟨hColorless, hSame⟩ | ⟨hColored, hShorter⟩
      · rw [hSame, List.append_cancel_left_eq]
        exact ⟨fun hRest => ⟨hColorless, hRest⟩, fun h => h.2⟩
      · -- What one token loses the others cannot make up for.
        constructor
        · intro hSame
          have hLength := congrArg List.length hSame
          have hRest := length_plainText_le hUnmarked.2
          rw [List.length_append, List.length_append] at hLength
          omega
        · intro hBoth
          exact absurd hBoth.1 hColored

end LogLine

------------------------------------------------------------
-- The Normal Form
------------------------------------------------------------

namespace LogLine

/- The tokens that stay, as a stripped template has them. -/
def strippedTokens
    (tokens : List Token) :
    List Token :=
  (tokens.filter Token.isVisible).map Token.uncolored

theorem plainText_eq_unparse
    (tokens : List Token) :
    plainText tokens = unparse (strippedTokens tokens) :=
  Token.flatten_map_plain tokens

/- The tokens that stay keep all their text from then on. -/
theorem plainText_strippedTokens
    {tokens : List Token}
    (hSettled : ∀ token ∈ tokens, token.Settled) :
    plainText (strippedTokens tokens) = plainText tokens := by
  induction tokens with
  | nil => rfl
  | cons token rest ih =>
      rw [List.forall_mem_cons] at hSettled
      unfold strippedTokens at ih ⊢
      by_cases hVisible : token.isVisible = true
      · have hInside := hVisible
        rw [Token.isVisible_eq_not_isBoundary hSettled.1.plain,
          Bool.not_eq_true'] at hInside
        rw [List.filter_cons_of_pos hVisible, List.map_cons,
          plainText_cons, plainText_cons, ih hSettled.2,
          hSettled.1.plain_uncolored hInside]
      · rw [List.filter_cons_of_neg hVisible, ih hSettled.2,
          plainText_cons, Token.plain_of_not_isVisible hVisible,
          List.nil_append]

theorem mem_strippedTokens
    {tokens : List Token}
    (hRenamable : ∀ token ∈ tokens, token.Renamable)
    (hSettled : ∀ token ∈ tokens, token.Settled) :
    ∀ token ∈ strippedTokens tokens,
      token.Readable ∧ token.Settled ∧
        token.isBoundary = false := by
  unfold strippedTokens
  rw [List.forall_mem_map]
  intro token hMem
  rcases List.mem_filter.mp hMem with ⟨hIn, hVisible⟩
  have hOwn := hSettled token hIn
  rw [Token.isVisible_eq_not_isBoundary hOwn.plain,
    Bool.not_eq_true'] at hVisible
  exact
    ⟨(hRenamable token hIn).readable_uncolored,
      hOwn.uncolored, hOwn.isBoundary_uncolored hVisible⟩

/- A stripped template reads back as tokens of the same kind. -/
theorem exists_read_plainText
    {tokens : List Token}
    (hRenamable : ∀ token ∈ tokens, token.Renamable)
    (hSettled : ∀ token ∈ tokens, token.Settled) :
    ∃ read,
      tokenize (plainText tokens) = .ok read ∧
      plainText read = plainText tokens ∧
      ∀ token ∈ read,
        token.Settled ∧ token.isBoundary = false := by
  have hKept := mem_strippedTokens hRenamable hSettled
  have hReadable :
      ∀ token ∈ strippedTokens tokens, token.Readable :=
    fun token hMem => (hKept token hMem).1
  have hRead := tokenize_unparse hReadable
  rw [← plainText_eq_unparse] at hRead
  refine ⟨_, hRead, ?_, ?_⟩
  · rw [plainText_placeTokens, plainText_joinText,
      plainText_strippedTokens hSettled]
  · intro token hMem
    cases token with
    | literal text => exact ⟨trivial, rfl⟩
    | field f =>
        rw [plainText_eq_unparse] at hRead
        rcases exists_field_of_mem_read hReadable hRead hMem with
          ⟨g, hWritten, hSame⟩
        -- Where a field stands is no part of its name.
        rw [hSame]
        exact (hKept _ hWritten).2

/-
  Taking colour away is idempotent, undoes the adding of
  markers, which never fails behind it, and changes just the
  templates that have a group field, an underscore in front
  of a name, or an empty spec.
-/
theorem stripColor_normal_form
    {raw : Text}
    {tokens : List Token}
    (hRead : tokenize raw = .ok tokens)
    (hSettled : ∀ token ∈ tokens, token.Settled) :
    ∃ stripped,
      stripColor raw = .ok stripped ∧
      stripColor stripped = .ok stripped ∧
      (∃ compiled,
        compile stripped = .ok compiled ∧
        stripColor compiled = .ok stripped) ∧
      (∀ compiled,
        compile raw = .ok compiled →
        stripColor compiled = .ok stripped) ∧
      (stripped = raw ↔ ∀ token ∈ tokens, token.Colorless) := by
  have hRenamable := renamable_of_settled hRead hSettled
  rcases exists_read_plainText hRenamable hSettled with
    ⟨read, hAgain, hSame, hKept⟩
  have hReadSettled : ∀ token ∈ read, token.Settled :=
    fun token hMem => (hKept token hMem).1
  refine ⟨plainText tokens, stripColor_eq_plainText hRead,
    ?_, ?_, ?_, ?_⟩
  · rw [stripColor_eq_plainText hAgain, hSame]
  · rcases exists_markedUp
      (fun token hMem => (hKept token hMem).2) with
      ⟨out, hMarked⟩
    have hCompile :
        compile (plainText tokens) = .ok (unparse out) :=
      (compile_eq_ok_iff _ _).mpr
        ⟨read, out, hAgain, hMarked, rfl⟩
    refine ⟨unparse out, hCompile, ?_⟩
    rw [stripColor_of_compile hAgain hReadSettled hCompile,
      hSame]
  · intro compiled hCompile
    exact stripColor_of_compile hRead hSettled hCompile
  · have hRaw := ((tokenize_eq_ok_iff raw tokens).mp hRead).1
    rw [hRaw]
    exact
      plainText_eq_unparse_iff
        (fun token hMem => (hSettled token hMem).isMarker)

/-
  A group that its second field names, with a conversion and
  a spec, an empty spec, a nested one, and doubled braces.
-/
theorem stripColor_normal_form_of_group :
    ∃ stripped,
      stripColor
          ("\x7benter!s:>3\x7d\x7b\x7b\x7b_n\x7d\x7bl:\x7d" ++
            "\x7bexit\x7d: \x7bm!r:>\x7bw\x7d\x7d").toList =
        .ok stripped ∧
      stripColor stripped = .ok stripped ∧
      (∃ compiled,
        compile stripped = .ok compiled ∧
        stripColor compiled = .ok stripped) ∧
      (∀ compiled,
        compile
            ("\x7benter!s:>3\x7d\x7b\x7b\x7b_n\x7d\x7bl:\x7d" ++
              "\x7bexit\x7d: \x7bm!r:>\x7bw\x7d\x7d").toList =
          .ok compiled →
        stripColor compiled = .ok stripped) ∧
      (stripped =
          ("\x7benter!s:>3\x7d\x7b\x7b\x7b_n\x7d\x7bl:\x7d" ++
            "\x7bexit\x7d: \x7bm!r:>\x7bw\x7d\x7d").toList ↔
        ∀ token ∈
          (scan
            ("\x7benter!s:>3\x7d\x7b\x7b\x7b_n\x7d\x7bl:\x7d" ++
              "\x7bexit\x7d: \x7bm!r:>\x7bw\x7d\x7d").toList).tokens,
          token.Colorless) :=
  stripColor_normal_form
    (by decide +kernel)
    (by decide +kernel)

end LogLine
