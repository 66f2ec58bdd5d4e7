import LogLine.Palette
import LogLine.Proofs.Outcome

/-
  Escape sequences in lines: deleting them gives back the text
  that they were put into.

  Key definitions include:
    * `LogLine.deleteEscapes`
    * `LogLine.EscapeRun`
    * `LogLine.Inserted`

  Key theorems include:
    * `LogLine.Palette.levelSequence_eq_enter`
    * `LogLine.Palette.escapeRun_enter`
    * `LogLine.Palette.escapeRun_exit`
    * `LogLine.Palette.deleteEscapes_paint`
    * `LogLine.Inserted.deleteEscapes`
-/

------------------------------------------------------------
-- Deleting Sequences
------------------------------------------------------------

namespace LogLine

/- The text behind the escape sequence that a text starts with. -/
def behindEscape? : Text → Option Text
  | '\x1b' :: '[' :: rest =>
      match rest.dropWhile isCodeDigit with
      | 'm' :: after => some after
      | _ => none
  | _ => none

theorem behindEscape?_shorter
    {text after : Text}
    (hBehind : behindEscape? text = some after) :
    after.length < text.length := by
  unfold behindEscape? at hBehind
  split at hBehind
  case h_2 => cases hBehind
  case h_1 rest =>
      split at hBehind
      case h_2 => cases hBehind
      case h_1 behind hDrop =>
          cases hBehind
          have hLength :=
            (List.dropWhile_suffix isCodeDigit :
              _ <:+ rest).length_le
          rw [hDrop] at hLength
          simp only [List.length_cons] at hLength ⊢
          omega

/- A text without its escape sequences. -/
def deleteEscapes
    (text : Text) :
    Text :=
  match _hBehind : behindEscape? text with
  | some after => deleteEscapes after
  | none =>
      match text with
      | [] => []
      | c :: rest => c :: deleteEscapes rest
termination_by text.length
decreasing_by
  · exact behindEscape?_shorter _hBehind
  · simp

/- Escape sequences one after the other, or nothing. -/
inductive EscapeRun : Text → Prop where
  | nil :
      EscapeRun []
  | cons
      {code rest : Text}
      (hCode : ∀ c ∈ code, isCodeDigit c = true)
      (hRest : EscapeRun rest) :
      EscapeRun ('\x1b' :: '[' :: (code ++ 'm' :: rest))

theorem behindEscape?_sequence
    {code : Text}
    (hCode : ∀ c ∈ code, isCodeDigit c = true)
    (after : Text) :
    behindEscape? ('\x1b' :: '[' :: (code ++ 'm' :: after)) =
      some after := by
  have hDrop :
      (code ++ 'm' :: after).dropWhile isCodeDigit =
        'm' :: after := by
    rw [List.dropWhile_append_of_pos hCode]
    rfl
  simp only [behindEscape?, hDrop]

theorem deleteEscapes_of_behindEscape?
    {text after : Text}
    (hBehind : behindEscape? text = some after) :
    deleteEscapes text = deleteEscapes after := by
  rw [deleteEscapes]
  split
  case h_1 found hFound =>
      rw [hBehind, Option.some.injEq] at hFound
      rw [hFound]
  case h_2 hNone =>
      rw [hBehind] at hNone
      cases hNone

/- Nothing is left of a run of sequences. -/
theorem deleteEscapes_run_append
    {run : Text}
    (hRun : EscapeRun run)
    (rest : Text) :
    deleteEscapes (run ++ rest) = deleteEscapes rest := by
  induction hRun with
  | nil => rfl
  | @cons code behind hCode _ ih =>
      have hText :
          ('\x1b' :: '[' :: (code ++ 'm' :: behind)) ++ rest =
            '\x1b' :: '[' ::
              (code ++ 'm' :: (behind ++ rest)) := by
        simp
      rw [hText,
        deleteEscapes_of_behindEscape?
          (behindEscape?_sequence hCode _), ih]

@[simp]
theorem deleteEscapes_nil :
    deleteEscapes [] = [] := by
  rw [deleteEscapes]
  rfl

/- A character that starts no sequence stays. -/
theorem deleteEscapes_cons_of_none
    {c : Char}
    {rest : Text}
    (hNone : behindEscape? (c :: rest) = none) :
    deleteEscapes (c :: rest) = c :: deleteEscapes rest := by
  rw [deleteEscapes]
  split
  case h_1 found hFound =>
      rw [hNone] at hFound
      cases hFound
  case h_2 => rfl

theorem deleteEscapes_cons
    {c : Char}
    (hOther : c ≠ '\x1b')
    (rest : Text) :
    deleteEscapes (c :: rest) = c :: deleteEscapes rest := by
  apply deleteEscapes_cons_of_none
  unfold behindEscape?
  split
  case h_1 behind hEq =>
      rw [List.cons.injEq] at hEq
      exact absurd hEq.1 hOther
  case h_2 => rfl

/- Text without an escape character stays as it is. -/
theorem deleteEscapes_text_append
    {text : Text}
    (hText : '\x1b' ∉ text)
    (rest : Text) :
    deleteEscapes (text ++ rest) =
      text ++ deleteEscapes rest := by
  induction text with
  | nil => rfl
  | cons c text ih =>
      rw [List.mem_cons, not_or] at hText
      have hOther : c ≠ '\x1b' := fun hSame => hText.1 hSame.symm
      rw [List.cons_append, deleteEscapes_cons hOther,
        ih hText.2, List.cons_append]

end LogLine

------------------------------------------------------------
-- Sequences of Palettes
------------------------------------------------------------

namespace LogLine

namespace EscapeRun

theorem append
    {first second : Text}
    (hFirst : EscapeRun first)
    (hSecond : EscapeRun second) :
    EscapeRun (first ++ second) := by
  induction hFirst with
  | nil => exact hSecond
  | cons hCode _ ih =>
      have hText := EscapeRun.cons hCode ih
      simpa using hText

theorem of_codeSequence
    {code sequence : Text}
    (hSequence : codeSequence code = .ok sequence) :
    EscapeRun sequence := by
  unfold codeSequence at hSequence
  by_cases hEmpty : code.isEmpty = true
  · rw [if_pos hEmpty] at hSequence
    cases hSequence
  · rw [if_neg hEmpty] at hSequence
    by_cases hAll : code.all isCodeDigit = true
    · rw [if_pos hAll] at hSequence
      cases hSequence
      have hRun :=
        EscapeRun.cons (List.all_eq_true.mp hAll) EscapeRun.nil
      simpa using hRun
    · rw [if_neg hAll] at hSequence
      cases hSequence

theorem of_mapM_codeSequence
    {codes sequences : List Text}
    (hAll : codes.mapM codeSequence = .ok sequences) :
    EscapeRun sequences.flatten := by
  induction codes generalizing sequences with
  | nil =>
      cases hAll
      exact EscapeRun.nil
  | cons code codes ih =>
      rw [List.mapM_cons, bind_eq_ok_iff] at hAll
      rcases hAll with ⟨first, hFirst, hRest⟩
      rw [bind_eq_ok_iff] at hRest
      rcases hRest with ⟨others, hOthers, hCons⟩
      cases hCons
      rw [List.flatten_cons]
      exact (of_codeSequence hFirst).append (ih hOthers)

/- The sequence of a colour is a run of escape sequences. -/
theorem of_sequence
    {color : Color}
    {sequence : Text}
    (hSequence : color.sequence = .ok sequence) :
    EscapeRun sequence := by
  cases color with
  | code code => exact of_codeSequence hSequence
  | codes codes =>
      cases codes with
      | nil => cases hSequence
      | cons code codes =>
          unfold Color.sequence at hSequence
          rw [bind_eq_ok_iff] at hSequence
          rcases hSequence with ⟨sequences, hAll, hFlatten⟩
          cases hFlatten
          exact of_mapM_codeSequence hAll

theorem reset :
    EscapeRun resetSequence := by
  have hRun :
      EscapeRun ('\x1b' :: '[' :: (['0'] ++ 'm' :: [])) :=
    EscapeRun.cons (by decide) EscapeRun.nil
  exact hRun

end EscapeRun

namespace Palette

theorem escapeRun_levelSequence
    {colors : LevelMap Color}
    {level : Level}
    {sequence : Text}
    (hSequence : levelSequence colors level = .ok sequence) :
    EscapeRun sequence := by
  unfold levelSequence at hSequence
  cases hColor : colors.get? level with
  | none =>
      rw [hColor] at hSequence
      cases hSequence
      exact EscapeRun.nil
  | some color =>
      rw [hColor] at hSequence
      exact EscapeRun.of_sequence hSequence

/- What is in front of a span is the sequence of its level. -/
theorem levelSequence_eq_enter
    {colors : LevelMap Color}
    {palette : Palette}
    (hPalette : ofColors colors = .ok palette)
    (level : Level) :
    levelSequence colors level = .ok (palette.enter level) := by
  unfold ofColors at hPalette
  simp only [bind_eq_ok_iff] at hPalette
  rcases hPalette with
    ⟨debug, hDebug, info, hInfo, warning, hWarning, error,
      hError, critical, hCritical, hValues⟩
  cases hValues
  cases level with
  | debug => exact hDebug
  | info => exact hInfo
  | warning => exact hWarning
  | error => exact hError
  | critical => exact hCritical

/- What stands in front of a coloured span is a run. -/
theorem escapeRun_enter
    {colors : LevelMap Color}
    {palette : Palette}
    (hPalette : ofColors colors = .ok palette)
    (level : Level) :
    EscapeRun (palette.enter level) :=
  escapeRun_levelSequence (levelSequence_eq_enter hPalette level)

theorem escapeRun_exit
    (palette : Palette)
    (level : Level) :
    EscapeRun (palette.exit level) := by
  unfold exit
  by_cases hNone : palette.enter level = []
  · rw [if_pos hNone]
    exact EscapeRun.nil
  · rw [if_neg hNone]
    exact EscapeRun.reset

/- Nothing is left of the colour of a text. -/
theorem deleteEscapes_paint
    {palette : Palette}
    {level : Level}
    (hEnter : EscapeRun (palette.enter level))
    {text : Text}
    (hText : '\x1b' ∉ text) :
    deleteEscapes (palette.paint level text) = text := by
  have hExit :=
    deleteEscapes_run_append (palette.escapeRun_exit level) []
  rw [List.append_nil, deleteEscapes_nil] at hExit
  rw [paint, List.append_assoc, deleteEscapes_run_append hEnter,
    deleteEscapes_text_append hText, hExit, List.append_nil]

end Palette

end LogLine

------------------------------------------------------------
-- Text Put into a Line
------------------------------------------------------------

namespace LogLine

/-
  The first text is the second with allowed texts put into it
  at any places.
-/
inductive Inserted
    (allowed : Text → Prop) :
    Text → Text → Prop where
  | nil :
      Inserted allowed [] []
  | text
      (text : Text)
      {colored plain : Text}
      (hRest : Inserted allowed colored plain) :
      Inserted allowed (text ++ colored) (text ++ plain)
  | mark
      {mark colored plain : Text}
      (hMark : allowed mark)
      (hRest : Inserted allowed colored plain) :
      Inserted allowed (mark ++ colored) plain

namespace Inserted

/- Nothing but empty texts put in changes nothing. -/
theorem eq_of_empty
    {colored plain : Text}
    (hInserted : Inserted (fun mark => mark = []) colored plain) :
    colored = plain := by
  induction hInserted with
  | nil => rfl
  | text text _ ih => rw [ih]
  | mark hMark _ ih => rw [hMark, List.nil_append, ih]

/- Runs put in are found again and deleted. -/
theorem deleteEscapes
    {colored plain : Text}
    (hInserted : Inserted EscapeRun colored plain)
    (hPlain : '\x1b' ∉ plain) :
    deleteEscapes colored = plain := by
  induction hInserted with
  | nil => exact deleteEscapes_nil
  | text text _ ih =>
      rw [List.mem_append, not_or] at hPlain
      rw [deleteEscapes_text_append hPlain.1, ih hPlain.2]
  | mark hMark _ ih =>
      rw [deleteEscapes_run_append hMark, ih hPlain]

end Inserted

end LogLine
