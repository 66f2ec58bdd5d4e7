import LogLine.Proofs.Rendering.Precedence
import LogLine.Proofs.Rendering.Questions
import LogLine.Proofs.Template.NamesOnly

/-
  Several renderers write one record, in any order and with
  failures in between.  The two texts that the record keeps
  are asked for once in all, and a renderer writes the record
  in the same way each time unless its template shows whether
  the texts are there.

  Key definitions include:
    * `LogLine.Record.Keeps`
    * `LogLine.Scene`
    * `LogLine.Scene.calls`
    * `LogLine.Call.Precedes`
    * `LogLine.Template.HistoryFree`

  Key theorems include:
    * `LogLine.Renderer.Rendered.keeps`
    * `LogLine.Scene.count_questions_le`
    * `LogLine.Scene.pairwise_calls`
    * `LogLine.Call.Precedes.line_eq`
    * `LogLine.texts_are_asked_once`
-/

------------------------------------------------------------
-- Records with More Texts
------------------------------------------------------------

namespace LogLine

namespace Record

/-
  The second record is the first with texts that were made
  since; a text that was there is still there.
-/
structure Keeps
    (old new : Record) : Prop where
  rest :
    ∃ timeText failureText timeCalls tracebackCalls,
      new = { old with
        timeText, failureText, timeCalls, tracebackCalls }
  timeText :
    ∀ text, old.timeText = some text →
      new.timeText = some text
  failureText :
    ∀ text, old.failureText = some text →
      new.failureText = some text

namespace Keeps

theorem refl
    (record : Record) :
    record.Keeps record where
  rest := ⟨_, _, _, _, rfl⟩
  timeText := fun _ hText => hText
  failureText := fun _ hText => hText

theorem trans
    {first second third : Record}
    (hFirst : first.Keeps second)
    (hSecond : second.Keeps third) :
    first.Keeps third where
  rest := by
    rcases hFirst.rest with ⟨time, text, times, calls, rfl⟩
    exact hSecond.rest
  timeText := fun text hText =>
    hSecond.timeText text (hFirst.timeText text hText)
  failureText := fun text hText =>
    hSecond.failureText text (hFirst.failureText text hText)

variable {old new : Record}

theorem level_eq
    (hKeeps : old.Keeps new) :
    new.level = old.level := by
  rcases hKeeps.rest with ⟨time, text, times, calls, rfl⟩
  rfl

theorem stackInfo_eq
    (hKeeps : old.Keeps new) :
    new.stackInfo = old.stackInfo := by
  rcases hKeeps.rest with ⟨time, text, times, calls, rfl⟩
  rfl

theorem failure_eq
    (hKeeps : old.Keeps new) :
    new.failure = old.failure := by
  rcases hKeeps.rest with ⟨time, text, times, calls, rfl⟩
  rfl

theorem extras_eq
    (hKeeps : old.Keeps new) :
    new.extras = old.extras := by
  rcases hKeeps.rest with ⟨time, text, times, calls, rfl⟩
  rfl

/- No answer changes but those with the kept texts. -/
theorem field?_eq
    (hKeeps : old.Keeps new)
    {name : Text}
    (hFailure : name ≠ Attribute.failureText.fieldName)
    (hTime :
      name = Attribute.timeText.fieldName →
        new.timeText = old.timeText) :
    new.field? name = old.field? name := by
  unfold field?
  cases hAttribute : Attribute.ofName? name with
  | none =>
      simp only [hKeeps.extras_eq]
  | some attr =>
      rw [Attribute.ofName?_eq_some_iff] at hAttribute
      subst hAttribute
      have hTexts :
          attr = .timeText → new.timeText = old.timeText := by
        rintro rfl
        exact hTime rfl
      rcases hKeeps.rest with ⟨time, text, times, calls, rfl⟩
      cases attr
      case failureText => exact absurd rfl hFailure
      case timeText =>
          exact congrArg (Option.map Value.str) (hTexts rfl)
      all_goals rfl

end Keeps

variable (record : Record)

theorem keeps_timeTextWith
    (format : Instant → Text) :
    record.Keeps (record.timeTextWith format).2 := by
  unfold timeTextWith
  cases hText : record.timeText with
  | some text => exact Keeps.refl record
  | none =>
      exact
        { rest := ⟨_, _, _, _, rfl⟩
          timeText := fun text hSome => by
            rw [hText] at hSome
            cases hSome
          failureText := fun _ hSome => hSome }

theorem keeps_failureTextWith
    (decorate : Text → Text) :
    record.Keeps (record.failureTextWith decorate).2 := by
  unfold failureTextWith
  cases hFailure : record.failure with
  | none => exact Keeps.refl record
  | some failure =>
      cases hText : record.failureText with
      | some text => exact Keeps.refl record
      | none =>
          exact
            { rest := ⟨_, _, _, _, by rw [hFailure]⟩
              timeText := fun _ hSome => hSome
              failureText := fun text hSome => by
                rw [hText] at hSome
                cases hSome }

theorem exists_failureTextWith
    {failure : Failure}
    (hFailure : record.failure = some failure)
    (decorate : Text → Text) :
    ∃ text, (record.failureTextWith decorate).1 = some text := by
  unfold failureTextWith
  rw [hFailure]
  cases record.failureText with
  | none => exact ⟨_, rfl⟩
  | some text => exact ⟨text, rfl⟩

/- A text that is kept is given as it is. -/
theorem failureTextWith_of_some
    {failure : Failure}
    (hFailure : record.failure = some failure)
    {text : Text}
    (hText : record.failureText = some text)
    (decorate : Text → Text) :
    record.failureTextWith decorate = (some text, record) := by
  unfold failureTextWith
  rw [hFailure, hText]

/- A record with a failure has the text that was given for it. -/
theorem failureText_failureTextWith
    {failure : Failure}
    (hFailure : record.failure = some failure)
    (decorate : Text → Text) :
    (record.failureTextWith decorate).2.failureText =
      (record.failureTextWith decorate).1 := by
  unfold failureTextWith
  rw [hFailure]
  cases hText : record.failureText with
  | some text => exact hText
  | none => rfl

end Record

namespace Renderer

variable (renderer : Renderer)
variable (record : Record)

theorem keeps_timed
    (color : Bool) :
    record.Keeps (renderer.timed color record) := by
  unfold timed withTime
  split
  · exact record.keeps_timeTextWith _
  · exact Record.Keeps.refl record

/- A template that refers to the time gets its text. -/
theorem exists_timeText_timed
    {color : Bool}
    (hTime :
      (renderer.templateFor color record.level).references
        Attribute.timeText.fieldName = true) :
    ∃ text, (renderer.timed color record).timeText = some text := by
  unfold timed withTime
  rw [if_pos hTime]
  unfold Record.timeTextWith
  cases hText : record.timeText with
  | some text => exact ⟨text, hText⟩
  | none => exact ⟨_, rfl⟩

end Renderer

/- A call adds texts to the record and does nothing else to it. -/
theorem Renderer.Rendered.keeps
    {renderer : Renderer}
    {record : Record}
    {result : Except RenderError Text × Record}
    {questions : List Question}
    (hRendered : renderer.Rendered record result questions) :
    record.Keeps result.2 := by
  cases hRendered with
  | undecided hSupport => exact Record.Keeps.refl record
  | @failed color fault hMode hFault =>
      exact renderer.keeps_timed record color
  | @written color line hMode hLine =>
      exact
        (renderer.keeps_timed record color).trans
          ((renderer.timed color record).keeps_failureTextWith _)

end LogLine

------------------------------------------------------------
-- Calls on One Record
------------------------------------------------------------

namespace LogLine

/- Renderers under tags, and the record that they write. -/
structure Scene (ι : Type) where
  renderers : ι → Renderer
  record : Record

/- What can happen to a record and its renderers. -/
inductive Action (ι : Type) where
  /- Decide whether the stream of a renderer shows colour. -/
  | decideColor (tag : ι) (supported : Bool)
  /- Have a renderer make the line of the record. -/
  | render (tag : ι)

/- A call of a renderer, and both as they were before it. -/
structure Call (ι : Type) where
  tag : ι
  renderer : Renderer
  before : Record

variable {ι : Type}

namespace Call

/- What a call gives. -/
def outcome
    (call : Call ι) :
    Except RenderError Text :=
  (call.renderer.render call.before).1

/- The record that a call leaves. -/
def after
    (call : Call ι) :
    Record :=
  (call.renderer.render call.before).2

/- What a call asks. -/
def questions
    (call : Call ι) :
    List Question :=
  call.renderer.questions call.before

theorem rendered
    (call : Call ι) :
    call.renderer.Rendered call.before
      (call.outcome, call.after) call.questions :=
  call.renderer.rendered_render call.before

end Call

namespace Scene

variable [DecidableEq ι]

/- The scene once colour is decided for a renderer. -/
def decideColor
    (scene : Scene ι)
    (tag : ι)
    (supported : Bool) :
    Scene ι :=
  { scene with
    renderers := fun other =>
      if other = tag then
        ((scene.renderers tag).decideColor supported).2
      else
        scene.renderers other }

/- The call of a renderer as the scene is. -/
def call
    (scene : Scene ι)
    (tag : ι) :
    Call ι :=
  ⟨tag, scene.renderers tag, scene.record⟩

/- The scene once a renderer was called. -/
def afterCall
    (scene : Scene ι)
    (tag : ι) :
    Scene ι :=
  { scene with record := (scene.call tag).after }

/- All calls of a course of actions, in order. -/
def calls
    (scene : Scene ι) :
    List (Action ι) → List (Call ι)
  | [] => []
  | .decideColor tag supported :: rest =>
      (scene.decideColor tag supported).calls rest
  | .render tag :: rest =>
      scene.call tag :: (scene.afterCall tag).calls rest

end Scene

end LogLine

------------------------------------------------------------
-- Questions of All Calls
------------------------------------------------------------

namespace LogLine

namespace Record

variable (record : Record)

@[simp]
theorem count_traceback_timeQuestions :
    record.timeQuestions.count .traceback = 0 := by
  unfold timeQuestions
  split <;> rfl

@[simp]
theorem count_timeText_failureQuestions :
    record.failureQuestions.count .timeText = 0 := by
  unfold failureQuestions
  split <;> rfl

theorem length_timeQuestions_le_one :
    record.timeQuestions.length ≤ 1 := by
  unfold timeQuestions
  split <;> decide

theorem length_failureQuestions_le_one :
    record.failureQuestions.length ≤ 1 := by
  unfold failureQuestions
  split <;> decide

theorem count_timeText_timeQuestions :
    record.timeQuestions.count .timeText =
      record.timeQuestions.length := by
  unfold timeQuestions
  split <;> rfl

theorem count_traceback_failureQuestions :
    record.failureQuestions.count .traceback =
      record.failureQuestions.length := by
  unfold failureQuestions
  split <;> rfl

/- What was made once is not asked for again. -/
theorem timeQuestions_timeTextWith
    (format : Instant → Text) :
    (record.timeTextWith format).2.timeQuestions = [] := by
  unfold timeTextWith timeQuestions
  cases hText : record.timeText with
  | none => exact if_neg (Option.some_ne_none _)
  | some text =>
      refine if_neg ?_
      rw [hText]
      exact Option.some_ne_none text

theorem failureQuestions_failureTextWith
    (decorate : Text → Text) :
    (record.failureTextWith decorate).2.failureQuestions =
      [] := by
  unfold failureTextWith failureQuestions
  cases hFailure : record.failure with
  | none => exact if_neg (fun hOpen => hOpen.1 hFailure)
  | some failure =>
      cases hText : record.failureText with
      | none => exact if_neg (fun hOpen => nomatch hOpen.2)
      | some text =>
          refine if_neg (fun hOpen => ?_)
          rw [hText] at hOpen
          exact nomatch hOpen.2

/- The record counts how often its time is written. -/
theorem timeCalls_timeTextWith
    (format : Instant → Text) :
    (record.timeTextWith format).2.timeCalls =
      record.timeCalls + record.timeQuestions.length := by
  unfold timeTextWith timeQuestions
  cases record.timeText with
  | none => rfl
  | some text => rw [if_neg (Option.some_ne_none text)]; rfl

theorem timeCalls_failureTextWith
    (decorate : Text → Text) :
    (record.failureTextWith decorate).2.timeCalls =
      record.timeCalls := by
  unfold failureTextWith
  cases record.failure with
  | none => rfl
  | some failure =>
      cases record.failureText with
      | none => rfl
      | some text => rfl

/- The record counts what its failure is asked for. -/
theorem tracebackCalls_failureTextWith
    (decorate : Text → Text) :
    (record.failureTextWith decorate).2.tracebackCalls =
      record.tracebackCalls + record.failureQuestions.length := by
  unfold failureTextWith failureQuestions
  cases record.failure with
  | none => rw [if_neg (fun hOpen => hOpen.1 rfl)]; rfl
  | some failure =>
      cases record.failureText with
      | none => rfl
      | some text => rw [if_neg (fun hOpen => nomatch hOpen.2)]; rfl

theorem timeQuestions_failureTextWith
    (decorate : Text → Text) :
    (record.failureTextWith decorate).2.timeQuestions =
      record.timeQuestions := by
  unfold failureTextWith
  cases record.failure with
  | none => rfl
  | some failure =>
      cases record.failureText with
      | none => rfl
      | some text => rfl

end Record

namespace Renderer

variable {renderer : Renderer}
variable {record : Record}
variable {result : Except RenderError Text × Record}
variable {questions : List Question}

@[simp]
theorem count_traceback_templateQuestions
    (color : Bool) :
    (renderer.templateQuestions color record).count
        .traceback = 0 := by
  unfold templateQuestions
  split
  · exact record.count_traceback_timeQuestions
  · rfl

/- Asking for a time leaves no question about it. -/
theorem count_timeText_templateQuestions
    (color : Bool) :
    (renderer.templateQuestions color record).count .timeText +
        (renderer.timed color record).timeQuestions.length =
      record.timeQuestions.length := by
  unfold templateQuestions timed withTime
  split
  · rw [record.timeQuestions_timeTextWith,
      record.count_timeText_timeQuestions]
    rfl
  · exact Nat.zero_add _

/- A record is asked for its time as often as it counts. -/
theorem timeCalls_timed
    (color : Bool) :
    (renderer.timed color record).timeCalls =
      record.timeCalls +
        (renderer.templateQuestions color record).count
          .timeText := by
  unfold templateQuestions timed withTime
  split
  · rw [record.timeCalls_timeTextWith,
      record.count_timeText_timeQuestions]
  · rfl

namespace Rendered

/- A call takes its questions about the time from those left. -/
theorem count_timeText
    (hRendered : renderer.Rendered record result questions) :
    questions.count .timeText + result.2.timeQuestions.length ≤
      record.timeQuestions.length := by
  cases hRendered with
  | undecided hSupport => exact (Nat.zero_add _).le
  | @failed color fault hMode hFault =>
      exact (count_timeText_templateQuestions color).le
  | @written color line hMode hLine =>
      rw [List.count_append,
        record.count_timeText_failureQuestions,
        Record.timeQuestions_failureTextWith]
      exact (count_timeText_templateQuestions color).le

theorem count_traceback
    (hRendered : renderer.Rendered record result questions) :
    questions.count .traceback +
        result.2.failureQuestions.length ≤
      record.failureQuestions.length := by
  cases hRendered with
  | undecided hSupport => exact (Nat.zero_add _).le
  | @failed color fault hMode hFault =>
      rw [count_traceback_templateQuestions,
        failureQuestions_timed, Nat.zero_add]
  | @written color line hMode hLine =>
      rw [List.count_append,
        count_traceback_templateQuestions,
        record.count_traceback_failureQuestions,
        Record.failureQuestions_failureTextWith, Nat.zero_add]
      rfl

/- The record counts the questions about its time itself. -/
theorem timeCalls_eq
    (hRendered : renderer.Rendered record result questions) :
    result.2.timeCalls =
      record.timeCalls + questions.count .timeText := by
  cases hRendered with
  | undecided hSupport => rfl
  | @failed color fault hMode hFault =>
      exact timeCalls_timed color
  | @written color line hMode hLine =>
      rw [List.count_append,
        record.count_timeText_failureQuestions,
        Record.timeCalls_failureTextWith]
      exact timeCalls_timed color

/- And those about its failure. -/
theorem tracebackCalls_eq
    (hRendered : renderer.Rendered record result questions) :
    result.2.tracebackCalls =
      record.tracebackCalls + questions.count .traceback := by
  cases hRendered with
  | undecided hSupport => rfl
  | @failed color fault hMode hFault =>
      rw [count_traceback_templateQuestions]
      exact tracebackCalls_timed record
  | @written color line hMode hLine =>
      rw [List.count_append,
        count_traceback_templateQuestions,
        record.count_traceback_failureQuestions, Nat.zero_add,
        Record.tracebackCalls_failureTextWith,
        tracebackCalls_timed, failureQuestions_timed]

end Rendered

end Renderer

namespace Scene

variable {ι : Type}
variable [DecidableEq ι]

/-
  By induction on the actions: what each call asks is taken
  from what is left to be asked about the record.
-/
theorem count_questions_le
    {question : Question}
    (left : Record → Nat)
    (hStep :
      ∀ call : Call ι,
        call.questions.count question + left call.after ≤
          left call.before)
    (scene : Scene ι)
    (actions : List (Action ι)) :
    ((scene.calls actions).flatMap Call.questions).count
        question ≤
      left scene.record := by
  induction actions generalizing scene with
  | nil => exact Nat.zero_le _
  | cons action rest ih =>
      cases action with
      | decideColor tag supported =>
          exact ih (scene.decideColor tag supported)
      | render tag =>
          have hCall := hStep (scene.call tag)
          have hRest := ih (scene.afterCall tag)
          rw [calls, List.flatMap_cons, List.count_append]
          exact (Nat.add_le_add_left hRest _).trans hCall

end Scene

end LogLine

------------------------------------------------------------
-- Calls One after the Other
------------------------------------------------------------

namespace LogLine

/- Once colour is decided, deciding again changes nothing. -/
theorem Renderer.decideColor_of_decided
    {renderer : Renderer}
    {decided : Bool}
    (hSupport : renderer.supportsColor = some decided)
    (supported : Bool) :
    (renderer.decideColor supported).2 = renderer := by
  unfold decideColor
  rw [hSupport]

variable {ι : Type}

/-
  The second call finds what the first one left, and the same
  renderer if colour was decided for it then.
-/
structure Call.Precedes
    (first second : Call ι) : Prop where
  keeps : first.after.Keeps second.before
  renderer :
    first.tag = second.tag →
      ∀ supported,
        first.renderer.supportsColor = some supported →
          second.renderer = first.renderer

namespace Scene

variable [DecidableEq ι]

theorem renderers_decideColor
    {scene : Scene ι}
    {tag : ι}
    {decided : Bool}
    (hSupport :
      (scene.renderers tag).supportsColor = some decided)
    (other : ι)
    (supported : Bool) :
    (scene.decideColor other supported).renderers tag =
      scene.renderers tag := by
  by_cases hTag : tag = other
  · subst hTag
    exact
      (if_pos rfl).trans
        (Renderer.decideColor_of_decided hSupport supported)
  · exact if_neg hTag

/- A call finds the record with all that it kept before. -/
theorem keeps_of_mem_calls
    {scene : Scene ι}
    {actions : List (Action ι)}
    {call : Call ι}
    (hCall : call ∈ scene.calls actions) :
    scene.record.Keeps call.before := by
  induction actions generalizing scene with
  | nil => cases hCall
  | cons action rest ih =>
      cases action with
      | decideColor tag supported =>
          have hRest :
              call ∈ (scene.decideColor tag supported).calls rest :=
            hCall
          have hKept := ih hRest
          exact hKept
      | render tag =>
          rcases List.mem_cons.mp hCall with rfl | hLater
          · exact Record.Keeps.refl scene.record
          · exact
              (scene.call tag).rendered.keeps.trans (ih hLater)

/- And its renderer as it was, if colour was decided for it. -/
theorem renderer_of_mem_calls
    {scene : Scene ι}
    {actions : List (Action ι)}
    {call : Call ι}
    (hCall : call ∈ scene.calls actions)
    {decided : Bool}
    (hSupport :
      (scene.renderers call.tag).supportsColor = some decided) :
    call.renderer = scene.renderers call.tag := by
  induction actions generalizing scene with
  | nil => cases hCall
  | cons action rest ih =>
      cases action with
      | decideColor tag supported =>
          have hSame :=
            renderers_decideColor hSupport tag supported
          rw [← hSame] at hSupport ⊢
          exact ih hCall hSupport
      | render tag =>
          rcases List.mem_cons.mp hCall with rfl | hLater
          · rfl
          · have hSame :
                ((scene.afterCall tag).renderers
                  call.tag).supportsColor = some decided :=
              hSupport
            have hKept := ih hLater hSame
            exact hKept

theorem pairwise_calls
    (scene : Scene ι)
    (actions : List (Action ι)) :
    (scene.calls actions).Pairwise Call.Precedes := by
  induction actions generalizing scene with
  | nil => exact List.Pairwise.nil
  | cons action rest ih =>
      cases action with
      | decideColor tag supported =>
          exact ih (scene.decideColor tag supported)
      | render tag =>
          refine List.Pairwise.cons ?_ (ih _)
          intro later hLater
          refine ⟨keeps_of_mem_calls hLater, ?_⟩
          intro hTag supported hSupport
          subst hTag
          have hSame :
              ((scene.afterCall later.tag).renderers
                later.tag).supportsColor = some supported :=
            hSupport
          have hKept := renderer_of_mem_calls hLater hSame
          exact hKept

end Scene

end LogLine

------------------------------------------------------------
-- Lines of One Renderer
------------------------------------------------------------

namespace LogLine

/-
  The template does not show the text of the failure, and it
  shows that of the time only if it asks for it.
-/
structure Template.HistoryFree
    (template : Template) : Prop where
  failureText :
    Attribute.failureText.fieldName ∉ template.names
  timeText :
    Attribute.timeText.fieldName ∈ template.names →
      template.references Attribute.timeText.fieldName = true

/- It is enough that no spec in it shows the text of the time. -/
theorem Template.historyFree_of_nestedSpecs
    {source : Text}
    {template : Template}
    (hParse : parse source = .ok template)
    (hFailure :
      Attribute.failureText.fieldName ∉ template.names)
    (hSpecs :
      ∀ spec ∈ template.nestedSpecs,
        ∀ inner, parse spec = .ok inner →
          Attribute.timeText.fieldName ∉ inner.names) :
    template.HistoryFree where
  failureText := hFailure
  timeText := by
    intro hTime
    rcases (mem_names_iff hParse _).mp hTime with
      hOwn | ⟨spec, hSpec, inner, hInner, hInside⟩
    · exact List.contains_iff_mem.mpr hOwn
    · exact absurd hInside (hSpecs spec hSpec inner hInner)

namespace Renderer

variable {renderer : Renderer}
variable {color : Bool}
variable {old new : Record}

/- Tables agree where the records answer alike. -/
theorem get?_table_congr
    {name : Text}
    (hField : new.field? name = old.field? name)
    (hExtras : new.extras = old.extras)
    (level : Level) :
    (renderer.table level new color).get? name =
      (renderer.table level old color).get? name := by
  unfold table
  rw [Dict.get?_ofList_append _ new.fields,
    Dict.get?_ofList_append _ old.fields, Record.get?_fields,
    Record.get?_fields, hField, hExtras]

/- What a renderer filled in once it fills in alike later. -/
theorem filled_congr
    (hTemplate :
      (renderer.templateFor color old.level).HistoryFree)
    (hKeeps : (renderer.timed color old).Keeps new) :
    renderer.filled color new = renderer.filled color old := by
  have hLevel : new.level = old.level := by
    rw [hKeeps.level_eq, level_timed]
  have hAll := hKeeps.trans (renderer.keeps_timed new color)
  rw [filled_eq_render, filled_eq_render, hLevel]
  apply renderSegments_congr
  intro name hName
  refine get?_table_congr (hAll.field?_eq ?_ ?_) hAll.extras_eq _
  · rintro rfl
    exact hTemplate.failureText hName
  · rintro rfl
    rcases exists_timeText_timed renderer old
        (hTemplate.timeText hName) with
      ⟨text, hText⟩
    rw [hText, hAll.timeText text hText]

/- The text of a failure stays what the first call made of it. -/
theorem failureBlock_congr
    (hKeeps :
      ((renderer.timed color old).failureTextWith
        (renderer.paintFailure old.level color)).2.Keeps new) :
    renderer.failureBlock color new =
      renderer.failureBlock color old := by
  have hFailure : new.failure = old.failure := by
    rw [hKeeps.failure_eq,
      (Record.keeps_failureTextWith _ _).failure_eq,
      failure_timed]
  unfold failureBlock
  cases hOld : old.failure with
  | none =>
      unfold Record.failureTextWith
      rw [hFailure, hOld]
  | some failure =>
      rcases old.exists_failureTextWith hOld
          (renderer.paintFailure old.level color) with
        ⟨text, hText⟩
      have hMade :=
        (renderer.timed color old).failureText_failureTextWith
          ((failure_timed old).trans hOld)
          (renderer.paintFailure old.level color)
      rw [failureTextWith_timed_fst, hText] at hMade
      rw [new.failureTextWith_of_some (hFailure.trans hOld)
        (hKeeps.failureText text hMade), hText]

end Renderer

namespace Call

variable {ι : Type}
variable {first second : Call ι}

/- A line had its colour decided and its template filled in. -/
theorem filled_of_outcome
    {call : Call ι}
    {line : Text}
    (hLine : call.outcome = .ok line) :
    ∃ color shown,
      call.renderer.colorMode = .ok color ∧
      call.renderer.filled color call.before = .ok shown ∧
      line =
        appendBlock
          (appendBlock shown
            (call.renderer.failureBlock color call.before))
          (call.before.stackInfo.getD []) ∧
      call.after =
        ((call.renderer.timed color call.before).failureTextWith
          (call.renderer.paintFailure call.before.level
            color)).2 := by
  have hRendered := call.rendered
  rw [hLine] at hRendered
  generalize call.after = after at hRendered
  generalize call.questions = questions at hRendered
  cases hRendered with
  | @written color shown hMode hShown =>
      exact ⟨color, shown, hMode, hShown, rfl, rfl⟩

/- A renderer that gave a line is the same in later calls. -/
theorem Precedes.renderer_eq
    (hPrecedes : first.Precedes second)
    (hTag : first.tag = second.tag)
    {line : Text}
    (hFirst : first.outcome = .ok line) :
    second.renderer = first.renderer := by
  rcases filled_of_outcome hFirst with
    ⟨color, shown, hMode, -, -, -⟩
  rcases (Renderer.colorMode_eq_ok_iff _ _).mp hMode with
    ⟨supported, hSupport, -⟩
  exact hPrecedes.renderer hTag supported hSupport

theorem Precedes.level_eq
    (hPrecedes : first.Precedes second) :
    second.before.level = first.before.level :=
  hPrecedes.keeps.level_eq.trans first.rendered.keeps.level_eq

/- So it gives the same line, if its template hides the history. -/
theorem Precedes.line_eq
    (hPrecedes : first.Precedes second)
    (hTag : first.tag = second.tag)
    {line other : Text}
    (hFirst : first.outcome = .ok line)
    (hSecond : second.outcome = .ok other)
    {template : Template}
    (hSelect :
      first.renderer.select first.before.level = .ok template)
    (hTemplate : template.HistoryFree) :
    line = other := by
  have hRenderer := hPrecedes.renderer_eq hTag hFirst
  rcases filled_of_outcome hFirst with
    ⟨color, shown, hMode, hShown, rfl, hAfter⟩
  rcases filled_of_outcome hSecond with
    ⟨otherColor, otherShown, hOtherMode, hOtherShown, rfl, -⟩
  rw [hRenderer] at hOtherMode hOtherShown ⊢
  rw [hMode, Except.ok.injEq] at hOtherMode
  subst hOtherMode
  rcases (Renderer.select_eq_ok_iff _ _ _).mp hSelect with
    ⟨selected, hSelected, rfl⟩
  rw [hMode, Except.ok.injEq] at hSelected
  subst hSelected
  have hKeeps := hPrecedes.keeps
  rw [hAfter] at hKeeps
  have hTimed :=
    (Record.keeps_failureTextWith _ _).trans hKeeps
  rw [Renderer.filled_congr hTemplate hTimed, hShown,
    Except.ok.injEq] at hOtherShown
  rw [hOtherShown, Renderer.failureBlock_congr hKeeps,
    hTimed.stackInfo_eq, Renderer.stackInfo_timed]

/- Of two calls of one renderer, lines are the same. -/
def Alike
    (first second : Call ι) : Prop :=
  first.tag = second.tag →
  ∀ line other template,
    first.outcome = .ok line →
    second.outcome = .ok other →
    first.renderer.select first.before.level = .ok template →
    template.HistoryFree →
    line = other

theorem Alike.refl
    (call : Call ι) :
    call.Alike call := by
  intro _ line other _ hLine hOther _ _
  rw [hLine, Except.ok.injEq] at hOther
  exact hOther

theorem Precedes.alike
    (hPrecedes : first.Precedes second) :
    first.Alike second :=
  fun hTag _ _ _ hFirst hSecond hSelect hTemplate =>
    hPrecedes.line_eq hTag hFirst hSecond hSelect hTemplate

/- The later call has the template of the earlier one. -/
theorem Precedes.alike_symm
    (hPrecedes : first.Precedes second) :
    second.Alike first := by
  intro hTag line other template hSecond hFirst hSelect hTemplate
  have hSame := hPrecedes.renderer_eq hTag.symm hFirst
  rw [hSame, hPrecedes.level_eq] at hSelect
  exact
    (hPrecedes.line_eq hTag.symm hFirst hSecond hSelect
      hTemplate).symm

end Call

/- Calls before and after one another have the same lines. -/
theorem Scene.alike_of_mem_calls
    [DecidableEq ι]
    (scene : Scene ι)
    (actions : List (Action ι)) :
    ∀ first ∈ scene.calls actions,
      ∀ second ∈ scene.calls actions, first.Alike second := by
  have hPairs := scene.pairwise_calls actions
  intro first hFirst second hSecond
  exact
    List.Pairwise.forall_of_forall_of_flip
      (fun call _ => Call.Alike.refl call)
      (hPairs.imp Call.Precedes.alike)
      (hPairs.imp Call.Precedes.alike_symm) hFirst hSecond

end LogLine

------------------------------------------------------------
-- What One Call Can Do
------------------------------------------------------------

namespace LogLine

namespace Renderer

namespace Rendered

variable {renderer : Renderer}
variable {record : Record}
variable {result : Except RenderError Text × Record}
variable {questions : List Question}

/- Without a decision about colour nothing happens. -/
theorem of_undecided
    (hRendered : renderer.Rendered record result questions)
    (hSupport : renderer.supportsColor = none) :
    result = (.error .undecidedColor, record) := by
  have hNone : ∀ color, renderer.colorMode ≠ .ok color := by
    intro color hMode
    rcases (colorMode_eq_ok_iff _ _).mp hMode with
      ⟨supported, hDecided, -⟩
    rw [hSupport] at hDecided
    cases hDecided
  cases hRendered with
  | undecided _ => rfl
  | failed hMode _ => exact absurd hMode (hNone _)
  | written hMode _ => exact absurd hMode (hNone _)

/- A failure is asked for its text for lines only. -/
theorem exists_line_of_traceback
    (hRendered : renderer.Rendered record result questions)
    (hAsked : .traceback ∈ questions) :
    ∃ line, result.1 = .ok line := by
  cases hRendered with
  | undecided hSupport => cases hAsked
  | @failed color fault hMode hFault =>
      have hNone :
          (renderer.templateQuestions color record).count
              .traceback = 0 :=
        count_traceback_templateQuestions color
      exact absurd hAsked (List.count_eq_zero.mp hNone)
  | written hMode hLine => exact ⟨_, rfl⟩

theorem references_of_mem_templateQuestions
    {color : Bool}
    (hAsked :
      .timeText ∈ renderer.templateQuestions color record) :
    (renderer.templateFor color record.level).references
      Attribute.timeText.fieldName = true := by
  unfold templateQuestions at hAsked
  split at hAsked
  case isTrue hTime => exact hTime
  case isFalse => cases hAsked

/- A time is asked for its text for templates that refer to it. -/
theorem exists_template_of_timeText
    (hRendered : renderer.Rendered record result questions)
    (hAsked : .timeText ∈ questions) :
    ∃ template,
      renderer.select record.level = .ok template ∧
        template.references Attribute.timeText.fieldName =
          true := by
  have hSelect :
      ∀ {color}, renderer.colorMode = .ok color →
        renderer.select record.level =
          .ok (renderer.templateFor color record.level) := by
    intro color hMode
    exact (select_eq_ok_iff _ _ _).mpr ⟨color, hMode, rfl⟩
  cases hRendered with
  | undecided hSupport => cases hAsked
  | failed hMode hFault =>
      exact
        ⟨_, hSelect hMode,
          references_of_mem_templateQuestions hAsked⟩
  | written hMode hLine =>
      have hNone := record.count_timeText_failureQuestions
      rcases List.mem_append.mp hAsked with hTemplate | hFailure
      · exact
          ⟨_, hSelect hMode,
            references_of_mem_templateQuestions hTemplate⟩
      · exact absurd hFailure (List.count_eq_zero.mp hNone)

/- A call that fails makes no text of a failure. -/
theorem failureText_of_error
    (hRendered : renderer.Rendered record result questions)
    {fault : RenderError}
    (hFault : result.1 = .error fault) :
    result.2.failureText = record.failureText := by
  cases hRendered with
  | undecided hSupport => rfl
  | failed hMode hFilled => exact failureText_timed record
  | written hMode hLine => cases hFault

end Rendered

end Renderer

end LogLine

------------------------------------------------------------
-- Texts That Are Asked Once
------------------------------------------------------------

namespace LogLine

/-
  Over all calls on a record its failure is asked for its text
  at most once and only for a line, and the text of its time
  is asked for at most once and only for a template that
  refers to it, both as the record itself counts.  A call
  without a decision about colour does nothing, one that fails
  keeps the text of the failure as it was, and lines of one
  renderer are the same if its template hides the history.
-/
theorem texts_are_asked_once
    {ι : Type}
    [DecidableEq ι]
    (scene : Scene ι)
    (actions : List (Action ι)) :
    ((scene.calls actions).flatMap Call.questions).count
        .traceback ≤ 1 ∧
    ((scene.calls actions).flatMap Call.questions).count
        .timeText ≤ 1 ∧
    (∀ call ∈ scene.calls actions,
      call.after.tracebackCalls =
          call.before.tracebackCalls +
            call.questions.count .traceback ∧
      call.after.timeCalls =
          call.before.timeCalls +
            call.questions.count .timeText ∧
      (.traceback ∈ call.questions →
        ∃ line, call.outcome = .ok line) ∧
      (.timeText ∈ call.questions →
        ∃ template,
          call.renderer.select call.before.level =
              .ok template ∧
            template.references
              Attribute.timeText.fieldName = true) ∧
      (call.renderer.supportsColor = none →
        call.outcome = .error .undecidedColor ∧
          call.after = call.before) ∧
      ∀ fault,
        call.outcome = .error fault →
          call.after.failureText = call.before.failureText) ∧
    ∀ first ∈ scene.calls actions,
      ∀ second ∈ scene.calls actions,
        first.tag = second.tag →
        ∀ line other template,
          first.outcome = .ok line →
          second.outcome = .ok other →
          first.renderer.select first.before.level =
            .ok template →
          template.HistoryFree →
          line = other := by
  refine ⟨?_, ?_, ?_, ?_⟩
  · have hCount :=
      scene.count_questions_le
        (fun record => record.failureQuestions.length)
        (fun call => call.rendered.count_traceback) actions
    exact
      hCount.trans scene.record.length_failureQuestions_le_one
  · have hCount :=
      scene.count_questions_le
        (fun record => record.timeQuestions.length)
        (fun call => call.rendered.count_timeText) actions
    exact hCount.trans scene.record.length_timeQuestions_le_one
  · intro call _
    refine
      ⟨call.rendered.tracebackCalls_eq,
        call.rendered.timeCalls_eq,
        call.rendered.exists_line_of_traceback,
        call.rendered.exists_template_of_timeText, ?_,
        fun fault => call.rendered.failureText_of_error⟩
    intro hSupport
    exact Prod.mk.inj (call.rendered.of_undecided hSupport)
  · exact scene.alike_of_mem_calls actions

/- A template with the time, for records with a failure. -/
def timedSettings : Settings :=
  { Settings.blank with
    templates :=
      LevelMap.uniform
        "\x7basctime\x7d \x7bmessage\x7d".toList }

/- A template that fails on a name that nothing gives. -/
def nestedTimeSettings : Settings :=
  { Settings.blank with
    templates :=
      LevelMap.uniform
        "\x7basctime\x7d \x7bmessage:>\x7bw\x7d\x7d".toList }

def brokenRecord : Record :=
  { Record.ofMessage .error "app".toList "stopped".toList
      default with
    failure := some (Failure.ofText "boom\n".toList) }

/- Two renderers, and one of them always fails. -/
def timedScene
    (first second : Renderer) :
    Scene Bool where
  renderers := fun tag => if tag then first else second
  record := brokenRecord

/- Failures and lines in turns, before and after decisions. -/
def timedActions : List (Action Bool) :=
  [.render true, .decideColor false true, .render false,
   .decideColor true false, .render true, .render false,
   .decideColor true true, .render true]

theorem texts_are_asked_once_of_two_renderers :
    ∃ first second,
      timedSettings.build = .ok first ∧
      nestedTimeSettings.build = .ok second ∧
      ((timedScene first second).calls timedActions).map
          (fun call => (call.tag, call.outcome.isOk)) =
        [(true, false), (false, false), (true, true),
         (false, false), (true, true)] ∧
      ((timedScene first second).calls timedActions).flatMap
          Call.questions =
        [.timeText, .traceback] ∧
      (((timedScene first second).calls timedActions).flatMap
          Call.questions).count .traceback ≤ 1 := by
  have hRun :
      (timedSettings.build.toOption.bind fun first =>
        nestedTimeSettings.build.toOption.map fun second =>
          (((timedScene first second).calls timedActions).map
              (fun call => (call.tag, call.outcome.isOk)),
            ((timedScene first second).calls
              timedActions).flatMap Call.questions)) =
        some
          ([(true, false), (false, false), (true, true),
             (false, false), (true, true)],
            [.timeText, .traceback]) := by
    decide +kernel
  simp only [Option.bind_eq_some_iff, Option.map_eq_some_iff,
    toOption_eq_some_iff, Prod.mk.injEq] at hRun
  rcases hRun with
    ⟨first, hFirst, second, hSecond, hOutcomes, hQuestions⟩
  exact
    ⟨first, second, hFirst, hSecond, hOutcomes, hQuestions,
      (texts_are_asked_once (timedScene first second)
        timedActions).1⟩

end LogLine
