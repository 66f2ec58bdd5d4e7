import Mathlib.Computability.RegularExpressions
import LogLine.Proofs.Template.MarkedUp

/-
  Which raw templates have their groups in order, and which
  fault is found in the others.  Only the fields that open,
  close or can name a group count, and they are read from
  left to right.

  Key definitions include:
    * `LogLine.groupMarks`
    * `LogLine.groupPattern`
    * `LogLine.GroupOpen`
    * `LogLine.GroupFault`
    * `LogLine.FirstFault`

  Key theorems include:
    * `LogLine.Phase.step_eq_error_iff`
    * `LogLine.Phase.run_eq_closed_iff`
    * `LogLine.Markup.phase_foldlM_step`
    * `LogLine.compile_accepts_ordered_groups`
-/

------------------------------------------------------------
-- Marks of Groups
------------------------------------------------------------

namespace LogLine

/- What the name of a field means for groups. -/
inductive GroupMark where
  | opens
  | closes
  /- A field that can give a group its name. -/
  | names
deriving DecidableEq, Repr

/-
  The mark of a name.  The empty name and names that start
  with an underscore have none.
-/
def GroupMark.ofName?
    (name : Text) :
    Option GroupMark :=
  if name = [] ∨ name.head? = some '_' then
    none
  else if name = enterName then
    some opens
  else if name = exitName then
    some closes
  else
    some names

/- The mark of a token; literals have none. -/
def Token.groupMark? : Token → Option GroupMark
  | literal _ => none
  | field f => GroupMark.ofName? f.name

/- The marks of tokens, from left to right. -/
def groupMarks
    (tokens : List Token) :
    List GroupMark :=
  tokens.filterMap Token.groupMark?

/-
  A name alone, or a group with names in it; `F | E F+ X`
  if `E` opens, `X` closes and `F` names.
-/
def groupUnit : RegularExpression GroupMark :=
  .char .names +
    .char .opens *
      (.char .names * .star (.char .names)) *
        .char .closes

/- Any number of names and of groups with names in them. -/
def groupPattern : RegularExpression GroupMark :=
  groupUnit.star

end LogLine

------------------------------------------------------------
-- Faults by Position
------------------------------------------------------------

namespace LogLine

/- The last group that the marks open is not closed. -/
def GroupOpen
    (marks : List GroupMark) : Prop :=
  (marks.filter (· ≠ .names)).getLast? = some .opens

instance :
    DecidablePred GroupOpen :=
  fun marks =>
    inferInstanceAs
      (Decidable
        ((marks.filter (· ≠ .names)).getLast? = some .opens))

/- The fault that a mark is behind the marks before it. -/
inductive GroupFault
    (before : List GroupMark) :
    GroupMark → CompileError → Prop where
  | nested
      (hOpen : GroupOpen before) :
      GroupFault before .opens .nestedGroup
  | unmatched
      (hClosed : ¬ GroupOpen before) :
      GroupFault before .closes .unmatchedExit
  | empty
      (hFresh : before.getLast? = some .opens) :
      GroupFault before .closes .emptyGroup

/- No mark is a fault behind those before it. -/
def FaultFree
    (marks : List GroupMark) : Prop :=
  ∀ before mark after fault,
    marks = before ++ mark :: after →
      ¬ GroupFault before mark fault

/- The first mark that is a fault is this fault. -/
def FirstFault
    (marks : List GroupMark)
    (fault : CompileError) : Prop :=
  ∃ before mark after,
    marks = before ++ mark :: after ∧
    FaultFree before ∧
    GroupFault before mark fault

@[simp]
theorem not_groupOpen_nil :
    ¬ GroupOpen [] := by
  simp [GroupOpen]

@[simp]
theorem groupOpen_concat_opens
    (marks : List GroupMark) :
    GroupOpen (marks ++ [.opens]) := by
  simp [GroupOpen]

@[simp]
theorem not_groupOpen_concat_closes
    (marks : List GroupMark) :
    ¬ GroupOpen (marks ++ [.closes]) := by
  simp [GroupOpen]

@[simp]
theorem groupOpen_concat_names
    (marks : List GroupMark) :
    GroupOpen (marks ++ [.names]) ↔ GroupOpen marks := by
  simp [GroupOpen]

end LogLine

------------------------------------------------------------
-- Phases
------------------------------------------------------------

namespace LogLine

/- Where the reading of groups stands, without any text. -/
inductive Phase where
  /- No group is open. -/
  | closed
  /- A group is open that has no name yet. -/
  | pending
  /- A group is open and has its name. -/
  | bound
deriving DecidableEq, Repr

namespace Phase

/- The phase behind one more mark. -/
def step
    (phase : Phase) :
    GroupMark → Except CompileError Phase
  | .opens =>
      match phase with
      | closed => .ok pending
      | _ => .error .nestedGroup
  | .closes =>
      match phase with
      | closed => .error .unmatchedExit
      | pending => .error .emptyGroup
      | bound => .ok closed
  | .names =>
      match phase with
      | closed => .ok closed
      | _ => .ok bound

/- The phase behind marks that are read from the start. -/
def run
    (marks : List GroupMark) :
    Except CompileError Phase :=
  marks.foldlM step closed

theorem run_concat
    (marks : List GroupMark)
    (mark : GroupMark) :
    run (marks ++ [mark]) =
      (do
        let phase ← run marks
        phase.step mark) := by
  unfold run
  rw [List.foldlM_append]
  cases marks.foldlM step closed with
  | error fault => rfl
  | ok phase => exact bind_pure (phase.step mark)

theorem run_concat_eq_ok_iff
    (marks : List GroupMark)
    (mark : GroupMark)
    (phase : Phase) :
    run (marks ++ [mark]) = .ok phase ↔
      ∃ before,
        run marks = .ok before ∧ before.step mark = .ok phase := by
  rw [run_concat, bind_eq_ok_iff]

/-
  The phase tells whether a group is open, and whether it
  has been opened just now.
-/
theorem of_run
    {marks : List GroupMark}
    {phase : Phase}
    (hRun : run marks = .ok phase) :
    (GroupOpen marks ↔ phase ≠ closed) ∧
      (marks.getLast? = some .opens ↔ phase = pending) := by
  induction marks using List.reverseRecOn generalizing phase with
  | nil =>
      cases hRun
      simp
  | append_singleton marks mark ih =>
      rcases (run_concat_eq_ok_iff marks mark phase).mp hRun with
        ⟨before, hBefore, hStep⟩
      have hOpen := (ih hBefore).1
      cases mark <;> cases before <;> cases hStep <;>
        simp_all

/- A mark cannot be read exactly where it is a fault. -/
theorem step_eq_error_iff
    {marks : List GroupMark}
    {phase : Phase}
    (hRun : run marks = .ok phase)
    (mark : GroupMark)
    (fault : CompileError) :
    phase.step mark = .error fault ↔
      GroupFault marks mark fault := by
  rcases of_run hRun with ⟨hOpen, hFresh⟩
  constructor
  · intro hFault
    cases mark with
    | opens =>
        cases phase <;> cases hFault
        · exact .nested (hOpen.mpr (by decide))
        · exact .nested (hOpen.mpr (by decide))
    | closes =>
        cases phase <;> cases hFault
        · exact .unmatched (by simp [hOpen])
        · exact .empty (hFresh.mpr rfl)
    | names => cases phase <;> cases hFault
  · rintro (hOpened | hClosed | hLast)
    · have hPhase := hOpen.mp hOpened
      cases phase <;> simp_all [step]
    · have hPhase : phase = closed := by
        by_contra hOther
        exact hClosed (hOpen.mpr hOther)
      rw [hPhase]
      rfl
    · rw [hFresh.mp hLast]
      rfl

/- Marks can be read to their end if none of them is a fault. -/
theorem exists_run_iff
    (marks : List GroupMark) :
    (∃ phase, run marks = .ok phase) ↔ FaultFree marks := by
  constructor
  · rintro ⟨phase, hRun⟩ before mark after fault rfl hFault
    unfold run at hRun
    rw [List.foldlM_append, bind_eq_ok_iff] at hRun
    rcases hRun with ⟨middle, hBefore, hRest⟩
    rw [List.foldlM_cons, bind_eq_ok_iff] at hRest
    rcases hRest with ⟨following, hStep, -⟩
    have hNever :=
      (step_eq_error_iff hBefore mark fault).mpr hFault
    rw [hStep] at hNever
    cases hNever
  · intro hFree
    cases hRun : run marks with
    | ok phase => exact ⟨phase, rfl⟩
    | error fault =>
        rcases (foldlM_eq_error_iff _ _ _ _).mp hRun with
          ⟨before, mark, after, middle, hSplit, hBefore, hStep⟩
        exact
          absurd ((step_eq_error_iff hBefore mark fault).mp hStep)
            (hFree before mark after fault hSplit)

/- Reading stops at the first fault and reports it. -/
theorem run_eq_error_iff
    (marks : List GroupMark)
    (fault : CompileError) :
    run marks = .error fault ↔ FirstFault marks fault := by
  constructor
  · intro hRun
    rcases (foldlM_eq_error_iff _ _ _ _).mp hRun with
      ⟨before, mark, after, middle, hSplit, hBefore, hStep⟩
    exact
      ⟨before, mark, after, hSplit,
        (exists_run_iff before).mp ⟨middle, hBefore⟩,
        (step_eq_error_iff hBefore mark fault).mp hStep⟩
  · rintro ⟨before, mark, after, hSplit, hFree, hFault⟩
    rcases (exists_run_iff before).mpr hFree with
      ⟨middle, hBefore⟩
    exact
      (foldlM_eq_error_iff _ _ _ _).mpr
        ⟨before, mark, after, middle, hSplit, hBefore,
          (step_eq_error_iff hBefore mark fault).mpr hFault⟩

end Phase

end LogLine

------------------------------------------------------------
-- The Language of Ordered Groups
------------------------------------------------------------

namespace LogLine

theorem mem_char_iff
    (mark : GroupMark)
    (marks : List GroupMark) :
    marks ∈ (RegularExpression.char mark).matches' ↔
      marks = [mark] :=
  Iff.rfl

theorem mem_star_char_iff
    (mark : GroupMark)
    (marks : List GroupMark) :
    marks ∈ (RegularExpression.char mark).star.matches' ↔
      ∃ count, marks = List.replicate count mark := by
  rw [RegularExpression.matches'_star, Language.mem_kstar]
  constructor
  · rintro ⟨words, rfl, hWords⟩
    refine ⟨words.length, ?_⟩
    rw [List.eq_replicate_of_mem hWords]
    simp
  · rintro ⟨count, rfl⟩
    exact
      ⟨List.replicate count [mark], by simp,
        fun word hMem => List.eq_of_mem_replicate hMem⟩

/- The marks of one group with `count + 1` names in it. -/
def groupOf
    (count : Nat) :
    List GroupMark :=
  .opens :: (List.replicate (count + 1) .names ++ [.closes])

theorem mem_groupUnit_iff
    (marks : List GroupMark) :
    marks ∈ groupUnit.matches' ↔
      marks = [.names] ∨ ∃ count, marks = groupOf count := by
  simp only [groupUnit, RegularExpression.matches'_add,
    RegularExpression.matches'_mul, Language.mem_add,
    Language.mem_mul, mem_star_char_iff, mem_char_iff]
  constructor
  · rintro (hName | ⟨front, ⟨opener, rfl, inside, hInside, rfl⟩,
      closer, rfl, rfl⟩)
    · exact Or.inl hName
    · rcases hInside with ⟨first, rfl, rest, ⟨count, rfl⟩, rfl⟩
      exact Or.inr ⟨count, rfl⟩
  · rintro (hName | ⟨count, rfl⟩)
    · exact Or.inl hName
    · right
      refine
        ⟨.opens :: List.replicate (count + 1) .names,
          ⟨[.opens], rfl, List.replicate (count + 1) .names,
            ?_, rfl⟩, [.closes], rfl, rfl⟩
      exact
        ⟨[.names], rfl, List.replicate count .names,
          ⟨count, rfl⟩, rfl⟩

/- Ordered groups may go on with a name or with a group. -/
theorem append_mem_groupPattern
    {done last : List GroupMark}
    (hDone : done ∈ groupPattern.matches')
    (hLast : last ∈ groupUnit.matches') :
    done ++ last ∈ groupPattern.matches' := by
  rw [groupPattern, RegularExpression.matches'_star,
    Language.mem_kstar] at hDone ⊢
  rcases hDone with ⟨words, rfl, hWords⟩
  refine ⟨words ++ [last], by simp, ?_⟩
  intro word hMem
  rcases List.mem_append.mp hMem with hEarlier | hNew
  · exact hWords word hEarlier
  · rw [List.mem_singleton.mp hNew]
    exact hLast

namespace Phase

/- The marks that lead to a phase from the start. -/
def Behind
    (marks : List GroupMark) :
    Phase → Prop
  | closed => marks ∈ groupPattern.matches'
  | pending =>
      ∃ done ∈ groupPattern.matches', marks = done ++ [.opens]
  | bound =>
      ∃ done ∈ groupPattern.matches', ∃ count,
        marks =
          done ++ .opens :: List.replicate (count + 1) .names

theorem behind_of_run
    {marks : List GroupMark}
    {phase : Phase}
    (hRun : run marks = .ok phase) :
    phase.Behind marks := by
  induction marks using List.reverseRecOn generalizing phase with
  | nil =>
      cases hRun
      exact Language.nil_mem_kstar _
  | append_singleton marks mark ih =>
      rcases (run_concat_eq_ok_iff marks mark phase).mp hRun with
        ⟨before, hBefore, hStep⟩
      have hBehind := ih hBefore
      cases mark with
      | opens =>
          cases before <;> cases hStep
          exact ⟨marks, hBehind, rfl⟩
      | closes =>
          cases before <;> cases hStep
          rcases hBehind with ⟨done, hDone, count, rfl⟩
          have hGroup :=
            append_mem_groupPattern hDone
              ((mem_groupUnit_iff _).mpr (Or.inr ⟨count, rfl⟩))
          rw [List.append_assoc]
          exact hGroup
      | names =>
          cases before with
          | closed =>
              cases hStep
              exact
                append_mem_groupPattern hBehind
                  ((mem_groupUnit_iff _).mpr (Or.inl rfl))
          | pending =>
              cases hStep
              rcases hBehind with ⟨done, hDone, rfl⟩
              exact ⟨done, hDone, 0, by simp⟩
          | bound =>
              cases hStep
              rcases hBehind with ⟨done, hDone, count, rfl⟩
              refine ⟨done, hDone, count + 1, ?_⟩
              rw [List.replicate_succ' (n := count + 1)]
              simp

theorem foldlM_step_names
    (count : Nat) :
    (List.replicate count GroupMark.names).foldlM step bound =
      .ok bound := by
  induction count with
  | zero => rfl
  | succ count ih => exact ih

theorem run_of_mem_groupUnit
    {marks : List GroupMark}
    (hUnit : marks ∈ groupUnit.matches') :
    run marks = .ok closed := by
  rcases (mem_groupUnit_iff marks).mp hUnit with
    rfl | ⟨count, rfl⟩
  · rfl
  · have hFold :
        run (groupOf count) =
          (do
            let phase ←
              (List.replicate count GroupMark.names).foldlM
                step bound
            phase.step GroupMark.closes) := by
      unfold run groupOf
      rw [List.foldlM_cons, List.replicate_succ,
        List.cons_append]
      show
        (List.replicate count GroupMark.names ++
          [GroupMark.closes]).foldlM step bound = _
      rw [List.foldlM_append, foldlM_step_names]
      rfl
    rw [hFold, foldlM_step_names]
    rfl

/- No group is open behind ordered groups, and only there. -/
theorem run_eq_closed_iff
    (marks : List GroupMark) :
    run marks = .ok closed ↔ marks ∈ groupPattern.matches' := by
  constructor
  · exact behind_of_run
  · intro hMem
    rw [groupPattern, RegularExpression.matches'_star,
      Language.mem_kstar] at hMem
    rcases hMem with ⟨words, rfl, hWords⟩
    induction words with
    | nil => rfl
    | cons word words ih =>
        rw [List.forall_mem_cons] at hWords
        have hWord := run_of_mem_groupUnit hWords.1
        unfold run at hWord ih ⊢
        rw [List.flatten_cons, List.foldlM_append, hWord]
        exact ih hWords.2

end Phase

end LogLine

------------------------------------------------------------
-- Adding Markers by Phases
------------------------------------------------------------

namespace LogLine

/- The phase of a group that may be open. -/
def Group.phase : Group → Phase
  | closed => .closed
  | pending _ _ => .pending
  | bound _ => .bound

/- What a role means for groups. -/
theorem GroupMark.ofName?_eq
    (name : Text) :
    ofName? name =
      match Role.ofName name with
      | .enter => some opens
      | .exit => some closes
      | .marked => some names
      | .positional => none
      | .unmarked _ => none := by
  rcases Role.ofName_cases name with
    ⟨rfl, hRole⟩ | ⟨bare, rfl, hRole⟩ | ⟨rfl, hRole⟩ |
      ⟨rfl, hRole⟩ | ⟨hPlain, hRole⟩
  · rfl
  · rw [hRole]
    rfl
  · rfl
  · rfl
  · rw [hRole]
    have hSome : name ≠ [] := by
      rintro rfl
      cases hRole
    have hNotEnter : name ≠ enterName := by
      rintro rfl
      cases hRole
    have hNotExit : name ≠ exitName := by
      rintro rfl
      cases hRole
    simp [ofName?, hSome, hPlain, hNotEnter, hNotExit]

namespace Markup

/- One token moves the phase as its mark does, if it has one. -/
theorem phase_step
    (markup : Markup)
    (token : Token) :
    (markup.step token).map (fun next => next.group.phase) =
      match token.groupMark? with
      | none => .ok markup.group.phase
      | some mark => markup.group.phase.step mark := by
  rcases markup with ⟨written, group⟩
  cases token with
  | literal text => cases group <;> rfl
  | field f =>
      rw [Token.groupMark?, GroupMark.ofName?_eq]
      simp only [step, Field.role]
      cases Role.ofName f.name <;> cases group <;> rfl

/- Tokens move the phase as their marks do, one by one. -/
theorem phase_foldlM_step
    (markup : Markup)
    (tokens : List Token) :
    (tokens.foldlM step markup).map
        (fun last => last.group.phase) =
      (groupMarks tokens).foldlM Phase.step
        markup.group.phase := by
  induction tokens generalizing markup with
  | nil => rfl
  | cons token rest ih =>
      have hStep := phase_step markup token
      rw [List.foldlM_cons]
      cases hMark : token.groupMark? with
      | none =>
          simp only [hMark] at hStep
          rcases (map_eq_ok_iff _ _ _).mp hStep with
            ⟨next, hNext, hPhase⟩
          rw [groupMarks, List.filterMap_cons_none hMark, hNext,
            ← hPhase]
          exact ih next
      | some mark =>
          simp only [hMark] at hStep
          rw [groupMarks, List.filterMap_cons_some hMark,
            List.foldlM_cons, ← hStep]
          cases markup.step token with
          | error fault => rfl
          | ok next => exact ih next

end Markup

end LogLine

------------------------------------------------------------
-- What Is Accepted
------------------------------------------------------------

namespace LogLine

namespace Markup

theorem exists_finish_iff
    (markup : Markup) :
    (∃ text, markup.finish = .ok text) ↔
      markup.group.phase = .closed := by
  rcases markup with ⟨written, group⟩
  cases group with
  | closed => exact ⟨fun _ => rfl, fun _ => ⟨written, rfl⟩⟩
  | pending enter inside => simp [finish, Group.phase]
  | bound name => simp [finish, Group.phase]

theorem finish_eq_error_iff
    (markup : Markup)
    (fault : CompileError) :
    markup.finish = .error fault ↔
      markup.group.phase ≠ .closed ∧
        fault = .unterminatedGroup := by
  rcases markup with ⟨written, group⟩
  cases group <;> simp [finish, Group.phase, eq_comm]

end Markup

/- The run over the marks of tokens is that over the tokens. -/
theorem run_groupMarks
    (tokens : List Token) :
    Phase.run (groupMarks tokens) =
      (tokens.foldlM Markup.step Markup.start).map
        (fun last => last.group.phase) :=
  (Markup.phase_foldlM_step Markup.start tokens).symm

theorem exists_compile_iff
    (raw : Text) :
    (∃ compiled, compile raw = .ok compiled) ↔
      (scan raw).violation = none ∧
        Phase.run (groupMarks (scan raw).tokens) =
          .ok .closed := by
  rw [run_groupMarks, map_eq_ok_iff]
  simp only [compile, bind_eq_ok_iff]
  cases (scan raw).violation with
  | some violation =>
      constructor
      · rintro ⟨compiled, last, -, hNever⟩
        cases hNever
      · rintro ⟨hNever, -⟩
        cases hNever
  | none =>
      simp only [true_and, ← Markup.exists_finish_iff]
      constructor
      · rintro ⟨compiled, last, hFold, hFinish⟩
        exact ⟨last, hFold, compiled, hFinish⟩
      · rintro ⟨last, hFold, compiled, hFinish⟩
        exact ⟨compiled, last, hFold, hFinish⟩

/-
  A fault of the marks goes first.  Then comes a violation of
  the grammar, and last a group that is open at the end.
-/
theorem compile_eq_error_iff
    (raw : Text)
    (fault : CompileError) :
    compile raw = .error fault ↔
      Phase.run (groupMarks (scan raw).tokens) =
          .error fault ∨
        ∃ phase,
          Phase.run (groupMarks (scan raw).tokens) =
              .ok phase ∧
            ((∃ violation,
                (scan raw).violation = some violation ∧
                  fault = .malformed violation) ∨
              ((scan raw).violation = none ∧
                phase ≠ .closed ∧
                  fault = .unterminatedGroup)) := by
  rw [run_groupMarks, map_eq_error_iff]
  simp only [map_eq_ok_iff, compile, bind_eq_error_iff]
  apply or_congr_right
  cases (scan raw).violation with
  | some violation =>
      constructor
      · rintro ⟨last, hFold, hFault⟩
        cases hFault
        exact
          ⟨last.group.phase, ⟨last, hFold, rfl⟩,
            Or.inl ⟨violation, rfl, rfl⟩⟩
      · rintro ⟨phase, ⟨last, hFold, -⟩,
          ⟨other, hSame, rfl⟩ | ⟨hNever, -⟩⟩
        · cases hSame
          exact ⟨last, hFold, rfl⟩
        · cases hNever
  | none =>
      simp only [Markup.finish_eq_error_iff]
      constructor
      · rintro ⟨last, hFold, hOpen⟩
        exact
          ⟨last.group.phase, ⟨last, hFold, rfl⟩,
            Or.inr ⟨trivial, hOpen⟩⟩
      · rintro ⟨phase, ⟨last, hFold, rfl⟩,
          ⟨violation, hNever, -⟩ | ⟨-, hOpen⟩⟩
        · cases hNever
        · exact ⟨last, hFold, hOpen⟩

end LogLine

------------------------------------------------------------
-- Ordered Groups
------------------------------------------------------------

namespace LogLine

/-
  A raw template gets its markers exactly if it can be read
  and its groups are in order.  Otherwise the leftmost fault
  is reported: that of a mark, then a violation of the
  grammar, then a group that is open at the end.
-/
theorem compile_accepts_ordered_groups
    (raw : Text) :
    ((∃ compiled, compile raw = .ok compiled) ↔
      (∃ tokens, tokenize raw = .ok tokens) ∧
        groupMarks (scan raw).tokens ∈
          groupPattern.matches') ∧
    ∀ fault,
      compile raw = .error fault ↔
        FirstFault (groupMarks (scan raw).tokens) fault ∨
        FaultFree (groupMarks (scan raw).tokens) ∧
          ((∃ violation,
              tokenize raw = .error violation ∧
                fault = .malformed violation) ∨
            ((∃ tokens, tokenize raw = .ok tokens) ∧
              GroupOpen (groupMarks (scan raw).tokens) ∧
              fault = .unterminatedGroup)) := by
  have hReads :
      (∃ tokens, tokenize raw = .ok tokens) ↔
        (scan raw).violation = none := by
    unfold tokenize
    cases (scan raw).violation <;> simp
  have hViolates (violation : SyntaxError) :
      tokenize raw = .error violation ↔
        (scan raw).violation = some violation := by
    unfold tokenize
    cases (scan raw).violation <;> simp
  constructor
  · rw [exists_compile_iff, hReads, Phase.run_eq_closed_iff]
  · intro fault
    rw [compile_eq_error_iff, Phase.run_eq_error_iff,
      ← Phase.exists_run_iff, hReads]
    simp only [hViolates]
    apply or_congr_right
    constructor
    · rintro ⟨phase, hRun, hViolation | ⟨hNone, hOpen, hFault⟩⟩
      · exact ⟨⟨phase, hRun⟩, Or.inl hViolation⟩
      · exact
          ⟨⟨phase, hRun⟩,
            Or.inr
              ⟨hNone, (Phase.of_run hRun).1.mpr hOpen, hFault⟩⟩
    · rintro ⟨⟨phase, hRun⟩,
        hViolation | ⟨hNone, hOpen, hFault⟩⟩
      · exact ⟨phase, hRun, Or.inl hViolation⟩
      · exact
          ⟨phase, hRun,
            Or.inr
              ⟨hNone, (Phase.of_run hRun).1.mp hOpen, hFault⟩⟩

end LogLine
