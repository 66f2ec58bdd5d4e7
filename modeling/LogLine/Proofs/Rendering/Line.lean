import LogLine.Renderer
import LogLine.Proofs.Outcome

/-
  A line as its parts: the template of the level filled in
  with the values of the record, and two blocks behind it.

  Key definitions include:
    * `LogLine.Renderer.filledTable`
    * `LogLine.Renderer.failureBlock`
    * `LogLine.Renderer.timed`
    * `LogLine.Renderer.filled`

  Key theorems include:
    * `LogLine.Renderer.select_eq_ok_iff`
    * `LogLine.Renderer.render_of_filled_error`
    * `LogLine.Renderer.render_of_filled_ok`
    * `LogLine.Renderer.render_fst`
-/

------------------------------------------------------------
-- Colour of a Stream
------------------------------------------------------------

namespace LogLine

namespace Renderer

variable {renderer : Renderer}
variable {color : Bool}

theorem colorMode_eq_ok_iff
    (renderer : Renderer)
    (color : Bool) :
    renderer.colorMode = .ok color ↔
      ∃ supported,
        renderer.supportsColor = some supported ∧
          color = (renderer.forceColor || supported) := by
  unfold colorMode
  cases renderer.supportsColor with
  | none => simp
  | some supported => simp [eq_comm]

theorem colorMode_eq_error_iff
    (renderer : Renderer)
    (fault : RenderError) :
    renderer.colorMode = .error fault ↔
      renderer.supportsColor = none ∧ fault = .undecidedColor := by
  unfold colorMode
  cases renderer.supportsColor with
  | none => simp [eq_comm]
  | some supported => simp

/- Deciding about colour changes nothing else. -/
theorem decideColor_snd
    (renderer : Renderer)
    (supported : Bool) :
    (renderer.decideColor supported).2 =
      { renderer with
        supportsColor :=
          renderer.supportsColor.getD supported } := by
  unfold decideColor
  cases hSupport : renderer.supportsColor with
  | none => rfl
  | some decided =>
      show renderer = { renderer with supportsColor := some decided }
      rw [← hSupport]

theorem select_eq_ok_iff
    (renderer : Renderer)
    (level : Level)
    (template : Template) :
    renderer.select level = .ok template ↔
      ∃ color,
        renderer.colorMode = .ok color ∧
          renderer.templateFor color level = template := by
  unfold select
  rw [bind_eq_ok_iff]
  simp [pure, Except.pure]

end Renderer

end LogLine

------------------------------------------------------------
-- Parts of a Line
------------------------------------------------------------

namespace LogLine

namespace Renderer

/- Making the text of the time leaves the rest of a record. -/
theorem withTime_cases
    (renderer : Renderer)
    (template : Template)
    (record : Record) :
    ∃ timeText timeCalls,
      renderer.withTime template record =
        { record with timeText, timeCalls } := by
  unfold withTime
  by_cases hTime :
      template.references Attribute.timeText.fieldName = true
  · rw [if_pos hTime]
    unfold Record.timeTextWith
    cases hText : record.timeText with
    | none => exact ⟨_, _, rfl⟩
    | some text =>
        refine ⟨some text, record.timeCalls, ?_⟩
        show record = { record with timeText := some text }
        rw [← hText]
  · rw [if_neg hTime]
    exact ⟨record.timeText, record.timeCalls, rfl⟩

theorem stackInfo_failureTextWith
    (record : Record)
    (decorate : Text → Text) :
    (record.failureTextWith decorate).2.stackInfo =
      record.stackInfo := by
  unfold Record.failureTextWith
  cases record.failure with
  | none => rfl
  | some failure =>
      cases record.failureText with
      | none => rfl
      | some text => rfl

/- The values that the template of a record is filled in with. -/
def filledTable
    (renderer : Renderer)
    (color : Bool)
    (record : Record) :
    Dict Value :=
  renderer.table record.level
    (renderer.withTime
      (renderer.templateFor color record.level) record)
    color

/- The text of the failure of a record, empty without one. -/
def failureBlock
    (renderer : Renderer)
    (color : Bool)
    (record : Record) :
    Text :=
  ((record.failureTextWith
    (renderer.paintFailure record.level color)).1).getD []

/- The record once its template can be filled in. -/
def timed
    (renderer : Renderer)
    (color : Bool)
    (record : Record) :
    Record :=
  renderer.withTime (renderer.templateFor color record.level)
    record

/- The template of a record filled in. -/
def filled
    (renderer : Renderer)
    (color : Bool)
    (record : Record) :
    Except RenderError Text :=
  (renderer.templateFor color record.level).render
    (renderer.filledTable color record).get?

variable {renderer : Renderer}
variable {color : Bool}

theorem withTime_eq_timed
    (record : Record) :
    renderer.withTime (renderer.templateFor color record.level)
        record =
      renderer.timed color record :=
  rfl

@[simp]
theorem level_timed
    (record : Record) :
    (renderer.timed color record).level = record.level := by
  rcases renderer.withTime_cases
      (renderer.templateFor color record.level) record with
    ⟨timeText, timeCalls, hTime⟩
  rw [timed, hTime]

@[simp]
theorem stackInfo_timed
    (record : Record) :
    (renderer.timed color record).stackInfo =
      record.stackInfo := by
  rcases renderer.withTime_cases
      (renderer.templateFor color record.level) record with
    ⟨timeText, timeCalls, hTime⟩
  rw [timed, hTime]

@[simp]
theorem failure_timed
    (record : Record) :
    (renderer.timed color record).failure = record.failure := by
  rcases renderer.withTime_cases
      (renderer.templateFor color record.level) record with
    ⟨timeText, timeCalls, hTime⟩
  rw [timed, hTime]

@[simp]
theorem failureText_timed
    (record : Record) :
    (renderer.timed color record).failureText =
      record.failureText := by
  rcases renderer.withTime_cases
      (renderer.templateFor color record.level) record with
    ⟨timeText, timeCalls, hTime⟩
  rw [timed, hTime]

@[simp]
theorem tracebackCalls_timed
    (record : Record) :
    (renderer.timed color record).tracebackCalls =
      record.tracebackCalls := by
  rcases renderer.withTime_cases
      (renderer.templateFor color record.level) record with
    ⟨timeText, timeCalls, hTime⟩
  rw [timed, hTime]

/- The text of a failure does not depend on that of the time. -/
theorem failureTextWith_timed_fst
    (record : Record)
    (decorate : Text → Text) :
    ((renderer.timed color record).failureTextWith
        decorate).1 =
      (record.failureTextWith decorate).1 := by
  unfold Record.failureTextWith
  rw [failure_timed, failureText_timed]
  cases record.failure with
  | none => rfl
  | some failure =>
      cases record.failureText with
      | none => rfl
      | some text => rfl

theorem filled_eq_render
    (record : Record) :
    renderer.filled color record =
      (renderer.templateFor color record.level).render
        (renderer.table record.level
          (renderer.timed color record) color).get? :=
  rfl

/- A template that cannot be filled in leaves the time at most. -/
theorem render_of_filled_error
    (hMode : renderer.colorMode = .ok color)
    {record : Record}
    {fault : RenderError}
    (hFault : renderer.filled color record = .error fault) :
    renderer.render record =
      (.error fault, renderer.timed color record) := by
  rw [filled_eq_render] at hFault
  unfold render
  rw [hMode]
  simp only [withTime_eq_timed, level_timed, hFault]

/- Behind the template stand the text of the failure and the stack. -/
theorem render_of_filled_ok
    (hMode : renderer.colorMode = .ok color)
    {record : Record}
    {line : Text}
    (hLine : renderer.filled color record = .ok line) :
    renderer.render record =
      (.ok
          (appendBlock
            (appendBlock line
              (renderer.failureBlock color record))
            (record.stackInfo.getD [])),
        ((renderer.timed color record).failureTextWith
          (renderer.paintFailure record.level color)).2) := by
  rw [filled_eq_render] at hLine
  unfold render
  rw [hMode]
  simp only [withTime_eq_timed, level_timed, hLine,
    failureTextWith_timed_fst, stackInfo_failureTextWith,
    stackInfo_timed]
  rfl

/- A line is its template filled in, with the two blocks. -/
theorem render_fst
    {renderer : Renderer}
    {color : Bool}
    (hMode : renderer.colorMode = .ok color)
    (record : Record) :
    (renderer.render record).1 =
      ((renderer.templateFor color record.level).render
          (renderer.filledTable color record).get?).map
        (fun line =>
          appendBlock
            (appendBlock line
              (renderer.failureBlock color record))
            (record.stackInfo.getD [])) := by
  show _ = (renderer.filled color record).map _
  cases hFilled : renderer.filled color record with
  | error fault =>
      rw [render_of_filled_error hMode hFilled]
      rfl
  | ok line =>
      rw [render_of_filled_ok hMode hFilled]
      rfl

end Renderer

end LogLine
