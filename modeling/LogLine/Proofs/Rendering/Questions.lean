import LogLine.Proofs.Rendering.Line

/-
  What a line is made of from outside: the text of a time, for
  which the formatter of a renderer is asked, and the text of
  a failure.  Lines are made here with any effects that asking
  may have; without effects that is `Renderer.render`, and
  with notes of the questions it shows what each call asks.

  Key definitions include:
    * `LogLine.Question`
    * `LogLine.Sources`
    * `LogLine.Renderer.renderFrom`
    * `LogLine.Renderer.questions`
    * `LogLine.Renderer.Rendered`

  Key theorems include:
    * `LogLine.Renderer.renderFrom_direct`
    * `LogLine.Renderer.renderFrom_noted`
    * `LogLine.Renderer.rendered_render`
-/

------------------------------------------------------------
-- Sources of Texts
------------------------------------------------------------

namespace LogLine

/- What is asked for while a line is made. -/
inductive Question where
  | timeText
  | traceback
deriving DecidableEq, Repr

/- Where texts come from, and with which effects. -/
structure Sources (m : Type → Type) where
  /- The text of a time, by the formatter of a renderer. -/
  timeText : Renderer → Instant → m Text
  /- The full text of a failure. -/
  traceback : Failure → m Text

namespace Sources

/- The text of a time is all that its formatter gives. -/
def formatted
    (renderer : Renderer)
    (created : Instant) :
    Text :=
  renderer.timeFormatter created renderer.datePattern

/- Texts without any effect. -/
def direct : Sources Id where
  timeText := formatted
  traceback := Failure.traceback

/- The same texts, with a note of each question. -/
def noted : Sources (StateM (List Question)) where
  timeText renderer created := do
    modify (· ++ [.timeText])
    return formatted renderer created
  traceback failure := do
    modify (· ++ [.traceback])
    return failure.traceback

end Sources

end LogLine

------------------------------------------------------------
-- Lines from Sources
------------------------------------------------------------

namespace LogLine

variable {m : Type → Type}
variable [Monad m]

namespace Record

/- The record with the text of its time, from a source. -/
def timeTextFrom
    (record : Record)
    (format : Instant → m Text) :
    m Record :=
  match record.timeText with
  | some _ => return record
  | none => do
      let text ← format record.created
      return { record with
        timeText := some text
        timeCalls := record.timeCalls + 1 }

/- The text of the failure, from a source, and the record with it. -/
def failureTextFrom
    (record : Record)
    (traceback : Failure → m Text)
    (decorate : Text → Text) :
    m (Option Text × Record) :=
  match record.failure with
  | none => return (none, record)
  | some failure =>
      match record.failureText with
      | some text => return (some text, record)
      | none => do
          let full ← traceback failure
          let text := decorate (full.dropFinal '\n')
          return (some text,
            { record with
              failureText := some text
              tracebackCalls := record.tracebackCalls + 1 })

end Record

namespace Renderer

/- The record with the text of its time, if a template needs it. -/
def withTimeFrom
    (sources : Sources m)
    (renderer : Renderer)
    (template : Template)
    (record : Record) :
    m Record :=
  if template.references Attribute.timeText.fieldName then
    record.timeTextFrom (sources.timeText renderer)
  else
    return record

/- The line of a record that has the text of its time. -/
def lineFrom
    (sources : Sources m)
    (renderer : Renderer)
    (template : Template)
    (color : Bool)
    (record : Record) :
    m (Except RenderError Text × Record) :=
  match
    template.render
      (renderer.table record.level record color).get? with
  | .error failure => return (.error failure, record)
  | .ok line => do
      let (text, record) ←
        record.failureTextFrom sources.traceback
          (renderer.paintFailure record.level color)
      let line := appendBlock line (text.getD [])
      return (.ok (appendBlock line (record.stackInfo.getD [])),
        record)

/- The line of a record, with its texts taken from sources. -/
def renderFrom
    (sources : Sources m)
    (renderer : Renderer)
    (record : Record) :
    m (Except RenderError Text × Record) :=
  match renderer.colorMode with
  | .error failure => return (.error failure, record)
  | .ok color => do
      let template := renderer.templateFor color record.level
      let timed ← renderer.withTimeFrom sources template record
      renderer.lineFrom sources template color timed

end Renderer

end LogLine

------------------------------------------------------------
-- Questions of a Call
------------------------------------------------------------

namespace LogLine

namespace Record

/- A record without the text of its time has to be asked for it. -/
def timeQuestions
    (record : Record) :
    List Question :=
  if record.timeText = none then [.timeText] else []

/- So has one with a failure and without its text. -/
def failureQuestions
    (record : Record) :
    List Question :=
  if record.failure ≠ none ∧ record.failureText = none then
    [.traceback]
  else
    []

end Record

namespace Renderer

/- What a call asks, in order. -/
def questions
    (renderer : Renderer)
    (record : Record) :
    List Question :=
  ((renderer.renderFrom .noted record).run []).2

/- What a template needs asked so that it can be filled in. -/
def templateQuestions
    (renderer : Renderer)
    (color : Bool)
    (record : Record) :
    List Question :=
  if (renderer.templateFor color record.level).references
      Attribute.timeText.fieldName then
    record.timeQuestions
  else
    []

/-
  All that a call can do: what it gives, the record that it
  leaves, and what it asks.
-/
inductive Rendered
    (renderer : Renderer)
    (record : Record) :
    Except RenderError Text × Record → List Question → Prop where
  /- It is not decided whether the stream shows colour. -/
  | undecided
      (hSupport : renderer.supportsColor = none) :
      Rendered renderer record (.error .undecidedColor, record) []
  /- The template cannot be filled in. -/
  | failed
      {color : Bool}
      {fault : RenderError}
      (hMode : renderer.colorMode = .ok color)
      (hFault : renderer.filled color record = .error fault) :
      Rendered renderer record
        (.error fault, renderer.timed color record)
        (renderer.templateQuestions color record)
  /- The template gives a line, and the blocks follow. -/
  | written
      {color : Bool}
      {line : Text}
      (hMode : renderer.colorMode = .ok color)
      (hLine : renderer.filled color record = .ok line) :
      Rendered renderer record
        (.ok
            (appendBlock
              (appendBlock line
                (renderer.failureBlock color record))
              (record.stackInfo.getD [])),
          ((renderer.timed color record).failureTextWith
            (renderer.paintFailure record.level color)).2)
        (renderer.templateQuestions color record ++
          record.failureQuestions)

end Renderer

end LogLine

------------------------------------------------------------
-- Effects of a Call
------------------------------------------------------------

namespace LogLine

variable (renderer : Renderer)
variable (record : Record)
variable (asked : List Question)

namespace Record

theorem timeTextFrom_direct
    (format : Instant → Text) :
    record.timeTextFrom (m := Id) format =
      (record.timeTextWith format).2 := by
  unfold timeTextFrom timeTextWith
  cases record.timeText with
  | none => rfl
  | some text => rfl

theorem failureTextFrom_direct
    (decorate : Text → Text) :
    record.failureTextFrom Sources.direct.traceback decorate =
      record.failureTextWith decorate := by
  unfold failureTextFrom failureTextWith
  cases record.failure with
  | none => rfl
  | some failure =>
      cases record.failureText with
      | none => rfl
      | some text => rfl

theorem timeTextFrom_noted :
    (record.timeTextFrom
        (Sources.noted.timeText renderer)).run asked =
      ((record.timeTextWith (Sources.formatted renderer)).2,
        asked ++ record.timeQuestions) := by
  unfold timeTextFrom timeTextWith timeQuestions
  cases record.timeText with
  | none => rfl
  | some text =>
      rw [if_neg (Option.some_ne_none text), List.append_nil]
      rfl

theorem failureTextFrom_noted
    (decorate : Text → Text) :
    (record.failureTextFrom Sources.noted.traceback
        decorate).run asked =
      (record.failureTextWith decorate,
        asked ++ record.failureQuestions) := by
  unfold failureTextFrom failureTextWith failureQuestions
  cases record.failure with
  | none =>
      rw [if_neg (fun h => h.1 rfl), List.append_nil]
      rfl
  | some failure =>
      cases record.failureText with
      | none => rfl
      | some text =>
          rw [if_neg (fun h => Option.some_ne_none text h.2),
            List.append_nil]
          rfl

end Record

namespace Renderer

theorem withTimeFrom_direct
    (template : Template) :
    renderer.withTimeFrom .direct template record =
      renderer.withTime template record := by
  unfold withTimeFrom withTime
  split
  · exact record.timeTextFrom_direct _
  · rfl

theorem withTimeFrom_noted
    (color : Bool) :
    (renderer.withTimeFrom .noted
        (renderer.templateFor color record.level)
        record).run asked =
      (renderer.timed color record,
        asked ++ renderer.templateQuestions color record) := by
  unfold withTimeFrom timed withTime templateQuestions
  split
  · exact record.timeTextFrom_noted renderer asked
  · rw [List.append_nil]
    rfl

/- Lines have no effect but those of their sources. -/
theorem renderFrom_direct :
    renderer.renderFrom .direct record =
      renderer.render record := by
  unfold renderFrom render
  cases renderer.colorMode with
  | error fault => rfl
  | ok color =>
      simp only [withTimeFrom_direct]
      generalize renderer.withTime
        (renderer.templateFor color record.level) record = timed
      show renderer.lineFrom .direct _ color timed = _
      unfold lineFrom
      cases (renderer.templateFor color record.level).render
          (renderer.table timed.level timed color).get? with
      | error fault => rfl
      | ok line =>
          simp only [Record.failureTextFrom_direct]
          rfl

@[simp]
theorem failureQuestions_timed
    (color : Bool) :
    (renderer.timed color record).failureQuestions =
      record.failureQuestions := by
  unfold Record.failureQuestions
  rw [failure_timed, failureText_timed]

theorem lineFrom_noted_of_error
    {template : Template}
    {color : Bool}
    {fault : RenderError}
    (hFault :
      template.render
          (renderer.table record.level record color).get? =
        .error fault) :
    (renderer.lineFrom .noted template color record).run asked =
      ((.error fault, record), asked) := by
  unfold lineFrom
  rw [hFault]
  rfl

theorem lineFrom_noted_of_ok
    {template : Template}
    {color : Bool}
    {line : Text}
    (hLine :
      template.render
          (renderer.table record.level record color).get? =
        .ok line) :
    (renderer.lineFrom .noted template color record).run asked =
      let made :=
        record.failureTextWith
          (renderer.paintFailure record.level color)
      ((.ok
          (appendBlock
            (appendBlock line (made.1.getD []))
            (made.2.stackInfo.getD [])),
        made.2),
        asked ++ record.failureQuestions) := by
  unfold lineFrom
  rw [hLine]
  simp only [StateT.run_bind, Record.failureTextFrom_noted]
  rfl

/- A call with notes: what it gives, and what it adds to them. -/
theorem exists_renderFrom_noted :
    ∃ added,
      renderer.Rendered record (renderer.render record) added ∧
        ∀ asked,
          (renderer.renderFrom .noted record).run asked =
            (renderer.render record, asked ++ added) := by
  cases hMode : renderer.colorMode with
  | error fault =>
      have hRender :
          renderer.render record = (.error fault, record) := by
        unfold render
        rw [hMode]
      refine ⟨[], ?_, ?_⟩
      · rw [hRender]
        rcases (colorMode_eq_error_iff _ _).mp hMode with
          ⟨hSupport, rfl⟩
        exact .undecided hSupport
      · intro asked
        unfold renderFrom
        rw [hMode, hRender, List.append_nil]
        rfl
  | ok color =>
      have hRun :
          ∀ asked,
            (renderer.renderFrom .noted record).run asked =
              (renderer.lineFrom .noted
                (renderer.templateFor color record.level) color
                (renderer.timed color record)).run
                  (asked ++
                    renderer.templateQuestions color record) := by
        intro asked
        unfold renderFrom
        rw [hMode]
        simp only [StateT.run_bind, withTimeFrom_noted]
        rfl
      cases hFilled : renderer.filled color record with
      | error fault =>
          rw [render_of_filled_error hMode hFilled]
          refine ⟨_, .failed hMode hFilled, ?_⟩
          intro asked
          rw [hRun, lineFrom_noted_of_error]
          rw [level_timed]
          exact hFilled
      | ok line =>
          have hTimed :
              (renderer.templateFor color record.level).render
                  (renderer.table
                    (renderer.timed color record).level
                    (renderer.timed color record) color).get? =
                .ok line := by
            rw [level_timed]
            exact hFilled
          rw [render_of_filled_ok hMode hFilled]
          refine ⟨_, .written hMode hFilled, ?_⟩
          intro asked
          rw [hRun, renderer.lineFrom_noted_of_ok _ _ hTimed]
          simp only [level_timed, failureTextWith_timed_fst,
            stackInfo_failureTextWith, stackInfo_timed,
            failureQuestions_timed, List.append_assoc]
          rfl

/- Noting the questions of a call changes nothing of it. -/
theorem renderFrom_noted :
    (renderer.renderFrom .noted record).run asked =
      (renderer.render record,
        asked ++ renderer.questions record) := by
  rcases renderer.exists_renderFrom_noted record with
    ⟨added, -, hRun⟩
  rw [questions, hRun, hRun, List.nil_append]

/- What a call gives, leaves and asks, all in one. -/
theorem rendered_render :
    renderer.Rendered record (renderer.render record)
      (renderer.questions record) := by
  rcases renderer.exists_renderFrom_noted record with
    ⟨added, hRendered, hRun⟩
  rw [questions, hRun, List.nil_append]
  exact hRendered

end Renderer

end LogLine
