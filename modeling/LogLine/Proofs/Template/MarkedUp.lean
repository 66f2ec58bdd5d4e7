import LogLine.Proofs.Outcome
import LogLine.Proofs.Template.Renaming

/-
  What it means for a template to be marked up, said of its
  tokens, and that adding markers does exactly this.

  Key definitions include:
    * `LogLine.Token.isBoundary`
    * `LogLine.Token.colorName?`
    * `LogLine.MarkedUp`

  Key theorems include:
    * `LogLine.Markup.completes_closed_iff`
    * `LogLine.compile_eq_ok_iff`
    * `LogLine.stripColor_eq_ok_iff`
-/

------------------------------------------------------------
-- Kinds of Tokens
------------------------------------------------------------

namespace LogLine

/- The five roles of a name, each with the names that have it. -/
theorem Role.ofName_cases
    (name : Text) :
    (name = [] ∧ Role.ofName name = positional) ∨
    (∃ bare,
      name = '_' :: bare ∧ Role.ofName name = unmarked bare) ∨
    (name = enterName ∧ Role.ofName name = enter) ∨
    (name = exitName ∧ Role.ofName name = exit) ∨
    (name.head? ≠ some '_' ∧ Role.ofName name = marked) := by
  unfold Role.ofName
  split
  case h_1 => exact Or.inl ⟨rfl, rfl⟩
  case h_2 bare => exact Or.inr (Or.inl ⟨bare, rfl, rfl⟩)
  case h_3 hSome hOther =>
      refine Or.inr (Or.inr ?_)
      by_cases hEnter : name = enterName
      · rw [if_pos hEnter]
        exact Or.inl ⟨hEnter, rfl⟩
      · rw [if_neg hEnter]
        by_cases hExit : name = exitName
        · rw [if_pos hExit]
          exact Or.inr (Or.inl ⟨hExit, rfl⟩)
        · rw [if_neg hExit]
          refine Or.inr (Or.inr ⟨?_, rfl⟩)
          cases name with
          | nil => exact absurd rfl hSome
          | cons c rest =>
              intro hHead
              rw [List.head?_cons, Option.some.injEq] at hHead
              rw [hHead] at hOther
              exact hOther rest rfl

namespace Field

theorem role_eq_enter_iff
    (f : Field) :
    f.role = .enter ↔ f.name = enterName := by
  constructor
  · intro hRole
    rcases Role.ofName_cases f.name with
      ⟨-, h⟩ | ⟨bare, -, h⟩ | ⟨hName, -⟩ | ⟨-, h⟩ | ⟨-, h⟩
    · cases h.symm.trans hRole
    · cases h.symm.trans hRole
    · exact hName
    · cases h.symm.trans hRole
    · cases h.symm.trans hRole
  · intro hName
    rw [role, hName]
    decide

theorem role_eq_exit_iff
    (f : Field) :
    f.role = .exit ↔ f.name = exitName := by
  constructor
  · intro hRole
    rcases Role.ofName_cases f.name with
      ⟨-, h⟩ | ⟨bare, -, h⟩ | ⟨-, h⟩ | ⟨hName, -⟩ | ⟨-, h⟩
    · cases h.symm.trans hRole
    · cases h.symm.trans hRole
    · cases h.symm.trans hRole
    · exact hName
    · cases h.symm.trans hRole
  · intro hName
    rw [role, hName]
    decide

/- A field that takes colour has no underscore to lose. -/
theorem bareName_of_marked
    {f : Field}
    (hRole : f.role = .marked) :
    f.name ≠ [] ∧ f.name.dropInitial '_' = f.name := by
  rcases Role.ofName_cases f.name with
    ⟨-, h⟩ | ⟨bare, -, h⟩ | ⟨-, h⟩ | ⟨-, h⟩ | ⟨hHead, -⟩
  · cases h.symm.trans hRole
  · cases h.symm.trans hRole
  · cases h.symm.trans hRole
  · cases h.symm.trans hRole
  · refine ⟨?_, Text.dropInitial_of_head?_ne hHead⟩
    intro hName
    rw [role, hName] at hRole
    cases hRole

end Field

namespace Token

/- Whether a token opens or closes a group. -/
def isBoundary : Token → Bool
  | literal _ => false
  | field f => f.role == .enter || f.role == .exit

/- The name of the span that a token can stand for. -/
def colorName? : Token → Option Text
  | literal _ => none
  | field f => if f.role = .marked then some f.name else none

/- A token is copied, takes colour, or bounds a group. -/
theorem kinds
    (token : Token) :
    (token.isBoundary = false ∧ token.colorName? = none) ∨
    (∃ f, token = field f ∧ f.role = .marked) ∨
    (∃ f, token = field f ∧ f.role = .enter) ∨
    (∃ f, token = field f ∧ f.role = .exit) := by
  cases token with
  | literal text => exact Or.inl ⟨rfl, rfl⟩
  | field f =>
      cases hRole : f.role with
      | positional =>
          exact Or.inl (by simp [isBoundary, colorName?, hRole])
      | unmarked bare =>
          exact Or.inl (by simp [isBoundary, colorName?, hRole])
      | marked => exact Or.inr (Or.inl ⟨f, rfl, hRole⟩)
      | enter => exact Or.inr (Or.inr (Or.inl ⟨f, rfl, hRole⟩))
      | exit => exact Or.inr (Or.inr (Or.inr ⟨f, rfl, hRole⟩))

/- Inside of groups there stand no other groups. -/
theorem exists_boundary
    {token : Token}
    (hBoundary : token.isBoundary ≠ false) :
    ∃ f, token = field f ∧
      (f.role = .enter ∨ f.role = .exit) := by
  rcases token.kinds with
    ⟨hInside, -⟩ | ⟨f, rfl, hRole⟩ | ⟨f, rfl, hRole⟩ |
      ⟨f, rfl, hRole⟩
  · exact absurd hInside hBoundary
  · simp [isBoundary, hRole] at hBoundary
  · exact ⟨f, rfl, Or.inl hRole⟩
  · exact ⟨f, rfl, Or.inr hRole⟩

theorem isBoundary_of_marked
    {f : Field}
    (hRole : f.role = .marked) :
    (field f).isBoundary = false := by
  simp [isBoundary, hRole]

theorem colorName?_of_marked
    {f : Field}
    (hRole : f.role = .marked) :
    (field f).colorName? = some f.name := by
  simp [colorName?, hRole]

theorem exists_marked_of_colorName?
    {token : Token}
    {name : Text}
    (hName : token.colorName? = some name) :
    ∃ f, token = field f ∧ f.role = .marked ∧
      f.name = name := by
  cases token with
  | literal text => simp [colorName?] at hName
  | field f =>
      by_cases hRole : f.role = .marked
      · rw [colorName?, if_pos hRole, Option.some.injEq] at hName
        exact ⟨f, rfl, hRole, hName⟩
      · rw [colorName?, if_neg hRole] at hName
        simp at hName

end Token

theorem Field.display_of_marked
    {f : Field}
    (hRole : f.role = .marked) :
    f.display = (Token.field f).uncolored.unparse := by
  rw [Field.display, Field.writeRenamed_eq_unparse,
    Token.uncolored, (Field.bareName_of_marked hRole).2]

end LogLine

------------------------------------------------------------
-- Marked-Up Token Lists
------------------------------------------------------------

namespace LogLine

/-
  The tokens of a raw template and those of the same
  template with markers.  A group becomes one span, named
  after the first token inside that takes colour; a token
  outside of groups that takes colour is a span by itself;
  all other tokens stand outside of spans.
-/
inductive MarkedUp : List Token → List Token → Prop where
  | nil :
      MarkedUp [] []
  | copied
      {token : Token}
      {raw out : List Token}
      (hInside : token.isBoundary = false)
      (hColor : token.colorName? = none)
      (hRest : MarkedUp raw out) :
      MarkedUp (token :: raw) (token.uncolored :: out)
  | single
      {f : Field}
      {raw out : List Token}
      (hRole : f.role = .marked)
      (hRest : MarkedUp raw out) :
      MarkedUp
        (.field f :: raw)
        (.field (Field.named (enterMarker f.name)) ::
          (Token.field f).uncolored ::
          .field (Field.named (exitMarker f.name)) :: out)
  | group
      {enter exit : Field}
      {name : Text}
      {inside raw out : List Token}
      (hEnter : enter.role = .enter)
      (hExit : exit.role = .exit)
      (hInside : ∀ token ∈ inside, token.isBoundary = false)
      (hName : inside.findSome? Token.colorName? = some name)
      (hRest : MarkedUp raw out) :
      MarkedUp
        (.field enter :: (inside ++ .field exit :: raw))
        (.field (enter.renamed (enterMarker name)) ::
          (inside.map Token.uncolored ++
            .field (exit.renamed (exitMarker name)) :: out))

end LogLine

------------------------------------------------------------
-- Steps of Marking Up
------------------------------------------------------------

namespace LogLine

namespace Markup

theorem step_copied
    {token : Token}
    (hInside : token.isBoundary = false)
    (hColor : token.colorName? = none)
    (markup : Markup) :
    markup.step token =
      .ok (markup.put token.uncolored.unparse) := by
  cases token with
  | literal text => rfl
  | field f =>
      have hText :
          (Token.field f).uncolored.unparse =
            f.writeRenamed (f.name.dropInitial '_') :=
        rfl
      rw [hText]
      simp only [Token.isBoundary, Bool.or_eq_false_iff,
        beq_eq_false_iff_ne, ne_eq] at hInside
      rcases Role.ofName_cases f.name with
        ⟨hName, h⟩ | ⟨bare, hName, h⟩ | ⟨-, h⟩ | ⟨-, h⟩ | ⟨-, h⟩
      · simp only [step, Field.role, h]
        rw [hName]
        rfl
      · simp only [step, Field.role, h]
        rw [hName]
        rfl
      · exact absurd h hInside.1
      · exact absurd h hInside.2
      · have hRole : f.role = .marked := h
        rw [Token.colorName?, if_pos hRole] at hColor
        simp at hColor

theorem step_marked
    {f : Field}
    (hRole : f.role = .marked)
    (markup : Markup) :
    markup.step (.field f) = .ok (markup.putMarked f) := by
  simp only [step, hRole]

theorem step_enter
    {f : Field}
    (hRole : f.role = .enter)
    (markup : Markup) :
    markup.step (.field f) = markup.openGroup f := by
  simp only [step, hRole]

theorem step_exit
    {f : Field}
    (hRole : f.role = .exit)
    (markup : Markup) :
    markup.step (.field f) = markup.closeGroup f := by
  simp only [step, hRole]

/- Inside of a named group every field is only copied. -/
theorem step_bound
    {token : Token}
    (hInside : token.isBoundary = false)
    (written name : Text) :
    step ⟨written, .bound name⟩ token =
      .ok ⟨written ++ token.uncolored.unparse, .bound name⟩ := by
  rcases token.kinds with
    ⟨-, hColor⟩ | ⟨f, rfl, hRole⟩ | ⟨f, rfl, hRole⟩ |
      ⟨f, rfl, hRole⟩
  · rw [step_copied hInside hColor]
    rfl
  · rw [step_marked hRole, putMarked,
      Field.display_of_marked hRole]
  · simp [Token.isBoundary, hRole] at hInside
  · simp [Token.isBoundary, hRole] at hInside

/-
  The rest of the tokens take the text from here to its end,
  with no group open there.
-/
def Completes
    (markup : Markup)
    (tokens : List Token)
    (compiled : Text) : Prop :=
  ∃ final,
    tokens.foldlM step markup = .ok final ∧
      final.finish = .ok compiled

theorem completes_nil_iff
    (markup : Markup)
    (compiled : Text) :
    markup.Completes [] compiled ↔
      markup = ⟨compiled, .closed⟩ := by
  rcases markup with ⟨written, group⟩
  constructor
  · rintro ⟨final, hFold, hFinish⟩
    rw [List.foldlM_nil] at hFold
    cases hFold
    cases group with
    | closed =>
        simp only [finish, Except.ok.injEq] at hFinish
        rw [hFinish]
    | pending enter inside => simp [finish] at hFinish
    | bound name => simp [finish] at hFinish
  · intro hClosed
    rw [hClosed]
    exact ⟨_, rfl, rfl⟩

theorem completes_cons_iff
    (markup : Markup)
    (token : Token)
    (tokens : List Token)
    (compiled : Text) :
    markup.Completes (token :: tokens) compiled ↔
      ∃ following,
        markup.step token = .ok following ∧
          following.Completes tokens compiled := by
  unfold Completes
  simp only [List.foldlM_cons, bind_eq_ok_iff]
  constructor
  · rintro ⟨final, ⟨following, hStep, hFold⟩, hFinish⟩
    exact ⟨following, hStep, final, hFold, hFinish⟩
  · rintro ⟨following, hStep, final, hFold, hFinish⟩
    exact ⟨final, ⟨following, hStep, hFold⟩, hFinish⟩

end Markup

end LogLine

------------------------------------------------------------
-- Marking Up Groups
------------------------------------------------------------

namespace LogLine

namespace Markup

/- A named group ends with the next field that can end it. -/
theorem completes_bound_iff
    (written name : Text)
    (tokens : List Token)
    (compiled : Text) :
    Completes ⟨written, .bound name⟩ tokens compiled ↔
      ∃ inside exit rest,
        tokens = inside ++ .field exit :: rest ∧
        (∀ token ∈ inside, token.isBoundary = false) ∧
        exit.role = .exit ∧
        Completes
          ⟨written ++ unparse (inside.map Token.uncolored) ++
            exit.writeRenamed (exitMarker name), .closed⟩
          rest compiled := by
  constructor
  · intro hCompletes
    induction tokens generalizing written with
    | nil =>
        rw [completes_nil_iff] at hCompletes
        simp at hCompletes
    | cons token tokens ih =>
        rw [completes_cons_iff] at hCompletes
        rcases hCompletes with ⟨following, hStep, hRest⟩
        by_cases hInside : token.isBoundary = false
        · rw [step_bound hInside] at hStep
          cases hStep
          rcases ih _ hRest with
            ⟨inside, exit, rest, rfl, hAll, hExit, hEnd⟩
          refine
            ⟨token :: inside, exit, rest, rfl, ?_, hExit, ?_⟩
          · rw [List.forall_mem_cons]
            exact ⟨hInside, hAll⟩
          · rw [List.map_cons, unparse_cons, ← List.append_assoc]
            exact hEnd
        · rcases Token.exists_boundary hInside with
            ⟨f, rfl, hEnter | hExit⟩
          · rw [step_enter hEnter] at hStep
            cases hStep
          · rw [step_exit hExit] at hStep
            cases hStep
            refine ⟨[], f, tokens, rfl, by simp, hExit, ?_⟩
            rw [List.map_nil, unparse_nil, List.append_nil]
            exact hRest
  · rintro ⟨inside, exit, rest, rfl, hAll, hExit, hEnd⟩
    induction inside generalizing written with
    | nil =>
        rw [List.map_nil, unparse_nil, List.append_nil] at hEnd
        rw [List.nil_append, completes_cons_iff,
          step_exit hExit]
        exact ⟨_, rfl, hEnd⟩
    | cons token inside ih =>
        rw [List.forall_mem_cons] at hAll
        rw [List.map_cons, unparse_cons,
          ← List.append_assoc] at hEnd
        rw [List.cons_append, completes_cons_iff,
          step_bound hAll.1]
        exact ⟨_, rfl, ih _ hAll.2 hEnd⟩

/- An open group is named by the next field with colour. -/
theorem completes_pending_iff
    (written text : Text)
    (enter : Field)
    (tokens : List Token)
    (compiled : Text) :
    Completes ⟨written, .pending enter text⟩ tokens compiled ↔
      ∃ front first rest,
        tokens = front ++ .field first :: rest ∧
        (∀ token ∈ front,
          token.isBoundary = false ∧
            token.colorName? = none) ∧
        first.role = .marked ∧
        Completes
          ⟨written ++
            enter.writeRenamed (enterMarker first.name) ++
            (text ++ unparse (front.map Token.uncolored)) ++
            first.display, .bound first.name⟩
          rest compiled := by
  constructor
  · intro hCompletes
    induction tokens generalizing text with
    | nil =>
        rw [completes_nil_iff] at hCompletes
        simp at hCompletes
    | cons token tokens ih =>
        rw [completes_cons_iff] at hCompletes
        rcases hCompletes with ⟨following, hStep, hRest⟩
        rcases token.kinds with
          ⟨hInside, hColor⟩ | ⟨f, rfl, hRole⟩ |
            ⟨f, rfl, hRole⟩ | ⟨f, rfl, hRole⟩
        · rw [step_copied hInside hColor] at hStep
          cases hStep
          rcases ih _ hRest with
            ⟨front, first, rest, rfl, hAll, hFirst, hEnd⟩
          refine
            ⟨token :: front, first, rest, rfl, ?_, hFirst, ?_⟩
          · rw [List.forall_mem_cons]
            exact ⟨⟨hInside, hColor⟩, hAll⟩
          · rw [List.map_cons, unparse_cons,
              ← List.append_assoc text]
            exact hEnd
        · rw [step_marked hRole] at hStep
          cases hStep
          refine ⟨[], f, tokens, rfl, by simp, hRole, ?_⟩
          rw [List.map_nil, unparse_nil, List.append_nil]
          exact hRest
        · rw [step_enter hRole] at hStep
          cases hStep
        · rw [step_exit hRole] at hStep
          cases hStep
  · rintro ⟨front, first, rest, rfl, hAll, hFirst, hEnd⟩
    induction front generalizing text with
    | nil =>
        rw [List.map_nil, unparse_nil, List.append_nil] at hEnd
        rw [List.nil_append, completes_cons_iff,
          step_marked hFirst]
        exact ⟨_, rfl, hEnd⟩
    | cons token front ih =>
        rw [List.forall_mem_cons] at hAll
        rw [List.map_cons, unparse_cons,
          ← List.append_assoc text] at hEnd
        rw [List.cons_append, completes_cons_iff,
          step_copied hAll.1.1 hAll.1.2]
        exact ⟨_, rfl, ih _ hAll.2 hEnd⟩

/- A whole group, from the field that opens it. -/
theorem completes_group_iff
    {enter : Field}
    (hEnter : enter.role = .enter)
    (written : Text)
    (tokens : List Token)
    (compiled : Text) :
    Completes ⟨written, .closed⟩ (.field enter :: tokens)
        compiled ↔
      ∃ inside exit name rest,
        tokens = inside ++ .field exit :: rest ∧
        (∀ token ∈ inside, token.isBoundary = false) ∧
        exit.role = .exit ∧
        inside.findSome? Token.colorName? = some name ∧
        Completes
          ⟨written ++
            unparse
              (.field (enter.renamed (enterMarker name)) ::
                (inside.map Token.uncolored ++
                  [.field (exit.renamed (exitMarker name))])),
            .closed⟩
          rest compiled := by
  have hOpen :
      Completes ⟨written, .closed⟩ (.field enter :: tokens)
          compiled ↔
        Completes ⟨written, .pending enter []⟩ tokens
          compiled := by
    rw [completes_cons_iff, step_enter hEnter]
    constructor
    · rintro ⟨following, hStep, hRest⟩
      cases hStep
      exact hRest
    · intro hRest
      exact ⟨_, rfl, hRest⟩
  rw [hOpen, completes_pending_iff]
  constructor
  · rintro ⟨front, first, tail, rfl, hFront, hFirst, hTail⟩
    rw [completes_bound_iff] at hTail
    rcases hTail with
      ⟨back, exit, rest, rfl, hBack, hExit, hEnd⟩
    have hColor := Token.colorName?_of_marked hFirst
    refine
      ⟨front ++ .field first :: back, exit, first.name, rest,
        by simp, ?_, hExit, ?_, ?_⟩
    · intro token hMem
      rw [List.mem_append, List.mem_cons] at hMem
      rcases hMem with hMem | rfl | hMem
      · exact (hFront token hMem).1
      · exact Token.isBoundary_of_marked hFirst
      · exact hBack token hMem
    · rw [List.findSome?_eq_some_iff]
      exact ⟨front, .field first, back, rfl, hColor,
        fun token hMem => (hFront token hMem).2⟩
    · simpa [Field.writeRenamed_eq_unparse,
        Field.display_of_marked hFirst] using hEnd
  · rintro
      ⟨inside, exit, name, rest, rfl, hInside, hExit, hName, hEnd⟩
    rw [List.findSome?_eq_some_iff] at hName
    rcases hName with
      ⟨front, token, back, rfl, hColor, hFront⟩
    rcases Token.exists_marked_of_colorName? hColor with
      ⟨first, rfl, hFirst, rfl⟩
    refine
      ⟨front, first, back ++ .field exit :: rest, by simp, ?_,
        hFirst, ?_⟩
    · intro token hMem
      have hAll := hInside token (List.mem_append_left _ hMem)
      exact ⟨hAll, hFront token hMem⟩
    · rw [completes_bound_iff]
      refine ⟨back, exit, rest, rfl, ?_, hExit, ?_⟩
      · intro token hMem
        refine hInside token (List.mem_append_right _ ?_)
        exact List.mem_cons_of_mem _ hMem
      · simpa [Field.writeRenamed_eq_unparse,
          Field.display_of_marked hFirst] using hEnd

end Markup

end LogLine

------------------------------------------------------------
-- Adding and Removing Markers
------------------------------------------------------------

namespace LogLine

namespace Markup

/-
  Outside of groups: what is copied or a span by itself goes
  token by token, and a group goes as a whole.
-/
theorem exists_markedUp_of_completes
    {written : Text}
    {tokens : List Token}
    {compiled : Text}
    (hCompletes :
      Completes ⟨written, .closed⟩ tokens compiled) :
    ∃ out,
      MarkedUp tokens out ∧
        compiled = written ++ unparse out := by
  cases tokens with
  | nil =>
      rw [completes_nil_iff] at hCompletes
      cases hCompletes
      exact ⟨[], MarkedUp.nil, by simp⟩
  | cons token tokens =>
      rcases token.kinds with
        ⟨hInside, hColor⟩ | ⟨f, rfl, hRole⟩ |
          ⟨f, rfl, hRole⟩ | ⟨f, rfl, hRole⟩
      · rw [completes_cons_iff,
          step_copied hInside hColor] at hCompletes
        rcases hCompletes with ⟨following, hStep, hRest⟩
        cases hStep
        rcases exists_markedUp_of_completes hRest with
          ⟨out, hOut, hText⟩
        exact ⟨_, MarkedUp.copied hInside hColor hOut,
          by simp [hText]⟩
      · rw [completes_cons_iff, step_marked hRole] at hCompletes
        rcases hCompletes with ⟨following, hStep, hRest⟩
        cases hStep
        rcases exists_markedUp_of_completes hRest with
          ⟨out, hOut, hText⟩
        refine ⟨_, MarkedUp.single hRole hOut, ?_⟩
        simp [hText, Field.write_eq_unparse_named,
          Field.display_of_marked hRole]
      · rw [completes_group_iff hRole] at hCompletes
        rcases hCompletes with
          ⟨inside, exit, name, rest, rfl, hInside, hExit,
            hName, hRest⟩
        rcases exists_markedUp_of_completes hRest with
          ⟨out, hOut, hText⟩
        exact
          ⟨_, MarkedUp.group hRole hExit hInside hName hOut,
            by simp [hText]⟩
      · rw [completes_cons_iff, step_exit hRole] at hCompletes
        rcases hCompletes with ⟨following, hStep, -⟩
        cases hStep
termination_by tokens.length
decreasing_by
  all_goals
    simp only [*, List.length_cons, List.length_append]
    omega

theorem completes_of_markedUp
    {tokens out : List Token}
    (hMarked : MarkedUp tokens out)
    (written : Text) :
    Completes ⟨written, .closed⟩ tokens
      (written ++ unparse out) := by
  induction hMarked generalizing written with
  | nil =>
      rw [completes_nil_iff, unparse_nil, List.append_nil]
  | copied hInside hColor _ ih =>
      rw [completes_cons_iff, step_copied hInside hColor,
        unparse_cons, ← List.append_assoc]
      exact ⟨_, rfl, ih _⟩
  | @single f raw out hRole _ ih =>
      rw [completes_cons_iff, step_marked hRole]
      refine ⟨_, rfl, ?_⟩
      have hEnd := ih
        (written ++
          Field.write (enterMarker f.name) none none ++
          f.display ++
          Field.write (exitMarker f.name) none none)
      simpa [Markup.putMarked, Field.write_eq_unparse_named,
        Field.display_of_marked hRole] using hEnd
  | @group enter exit name inside raw out hEnter hExit hInside
      hName _ ih =>
      rw [completes_group_iff hEnter]
      refine
        ⟨inside, exit, name, raw, rfl, hInside, hExit, hName, ?_⟩
      have hEnd := ih
        (written ++
          unparse
            (.field (enter.renamed (enterMarker name)) ::
              (inside.map Token.uncolored ++
                [.field (exit.renamed (exitMarker name))])))
      simpa using hEnd

theorem completes_closed_iff
    (written : Text)
    (tokens : List Token)
    (compiled : Text) :
    Completes ⟨written, .closed⟩ tokens compiled ↔
      ∃ out,
        MarkedUp tokens out ∧
          compiled = written ++ unparse out := by
  constructor
  · exact exists_markedUp_of_completes
  · rintro ⟨out, hMarked, rfl⟩
    exact completes_of_markedUp hMarked written

end Markup

/- Without a violation, only the groups decide. -/
theorem compile_of_tokenize
    {raw : Text}
    {tokens : List Token}
    (hRead : tokenize raw = .ok tokens) :
    compile raw =
      (tokens.foldlM Markup.step Markup.start >>=
        Markup.finish) := by
  rw [tokenize_eq_ok_iff_scan] at hRead
  unfold compile
  rw [hRead]

theorem tokenize_of_compile
    {raw compiled : Text}
    (hCompile : compile raw = .ok compiled) :
    tokenize raw = .ok (scan raw).tokens := by
  unfold compile at hCompile
  rw [bind_eq_ok_iff] at hCompile
  rcases hCompile with ⟨final, -, hFinish⟩
  unfold tokenize
  cases hViolation : (scan raw).violation with
  | none => rfl
  | some violation =>
      rw [hViolation] at hFinish
      cases hFinish

/- Adding markers writes a marked-up list of tokens. -/
theorem compile_eq_ok_iff
    (raw compiled : Text) :
    compile raw = .ok compiled ↔
      ∃ tokens out,
        tokenize raw = .ok tokens ∧
        MarkedUp tokens out ∧
        compiled = unparse out := by
  have hCompletes :
      ∀ tokens,
        tokenize raw = .ok tokens →
          (compile raw = .ok compiled ↔
            ∃ out,
              MarkedUp tokens out ∧
                compiled = unparse out) := by
    intro tokens hRead
    rw [compile_of_tokenize hRead, bind_eq_ok_iff]
    exact Markup.completes_closed_iff [] tokens compiled
  constructor
  · intro hCompile
    have hRead := tokenize_of_compile hCompile
    rw [hCompletes _ hRead] at hCompile
    rcases hCompile with ⟨out, hMarked, hText⟩
    exact ⟨_, out, hRead, hMarked, hText⟩
  · rintro ⟨tokens, out, hRead, hMarked⟩
    rw [hCompletes tokens hRead]
    exact ⟨out, hMarked⟩

/- The tokens that stay when colour is taken away. -/
def Token.isVisible : Token → Bool
  | literal _ => true
  | field f =>
      f.name ≠ enterName ∧ f.name ≠ exitName ∧
        LogLine.isMarker f.name = false

namespace Token

theorem isBoundary_field_iff
    (f : Field) :
    (field f).isBoundary = true ↔
      f.name = enterName ∨ f.name = exitName := by
  rw [isBoundary, Bool.or_eq_true, beq_iff_eq, beq_iff_eq,
    f.role_eq_enter_iff, f.role_eq_exit_iff]

/- Without markers in it, a template loses its group fields only. -/
theorem isVisible_eq_not_isBoundary
    {token : Token}
    (hPlain : token.Plain) :
    token.isVisible = !token.isBoundary := by
  cases token with
  | literal text => rfl
  | field f =>
      have hName : PlainName f.name := hPlain
      rw [Bool.eq_iff_iff, Bool.not_eq_true',
        ← Bool.not_eq_true, isBoundary_field_iff]
      simp [isVisible, hName.unmarked]

theorem plain_of_isVisible
    {token : Token}
    (hVisible : token.isVisible = true) :
    token.plain = token.uncolored.unparse := by
  cases token with
  | literal text => rfl
  | field f =>
      simp only [isVisible, decide_eq_true_eq] at hVisible
      simp [plain, hVisible, uncolored,
        Field.writeRenamed_eq_unparse]

theorem plain_of_not_isVisible
    {token : Token}
    (hHidden : ¬ token.isVisible = true) :
    token.plain = [] := by
  cases token with
  | literal text => exact absurd rfl hHidden
  | field f =>
      refine if_pos ?_
      by_contra hNone
      rw [not_or, not_or, Bool.not_eq_true] at hNone
      exact hHidden (decide_eq_true hNone)

/- What stays is the text of the visible tokens. -/
theorem flatten_map_plain
    (tokens : List Token) :
    (tokens.map plain).flatten =
      LogLine.unparse
        ((tokens.filter isVisible).map uncolored) := by
  induction tokens with
  | nil => rfl
  | cons token tokens ih =>
      rw [List.map_cons, List.flatten_cons, ih]
      by_cases hVisible : token.isVisible = true
      · rw [List.filter_cons_of_pos hVisible, List.map_cons,
          unparse_cons, plain_of_isVisible hVisible]
      · rw [List.filter_cons_of_neg hVisible,
          plain_of_not_isVisible hVisible, List.nil_append]

end Token

/- Taking colour away writes the visible tokens without theirs. -/
theorem stripColor_eq_ok_iff
    (raw stripped : Text) :
    stripColor raw = .ok stripped ↔
      ∃ tokens,
        tokenize raw = .ok tokens ∧
        stripped =
          unparse
            ((tokens.filter Token.isVisible).map
              Token.uncolored) := by
  unfold stripColor tokenize
  cases (scan raw).violation with
  | some violation => simp
  | none => simp [Token.flatten_map_plain, eq_comm]

end LogLine
