import LogLine.Proofs.Color.Escapes
import LogLine.Proofs.LevelMap

/-
  Palettes and the colours that they are made from: which
  colours give one, what is reported if they do not, and what
  the palette puts around a text at every level.

  Key definitions include:
    * `LogLine.IsCode`
    * `LogLine.Color.WellFormed`
    * `LogLine.Color.escapes`
    * `LogLine.Color.FaultIn`

  Key theorems include:
    * `LogLine.Color.sequence_eq_ok_iff`
    * `LogLine.Color.sequence_eq_error_iff`
    * `LogLine.palettes_follow_colors`
-/

------------------------------------------------------------
-- Codes
------------------------------------------------------------

namespace LogLine

/- A code holds digits and `;`, and at least one of them. -/
def IsCode
    (code : Text) : Prop :=
  code ≠ [] ∧ ∀ c ∈ code, c.isDigit = true ∨ c = ';'

/- The escape sequence of one code. -/
def codeEscape
    (code : Text) :
    Text :=
  '\x1b' :: '[' :: (code ++ ['m'])

theorem isCode_iff
    (code : Text) :
    IsCode code ↔
      code.isEmpty = false ∧ code.all isCodeDigit = true := by
  simp [IsCode, isCodeDigit]

theorem codeSequence_eq_ok_iff
    (code text : Text) :
    codeSequence code = .ok text ↔
      IsCode code ∧ text = codeEscape code := by
  rw [isCode_iff, codeSequence]
  cases code.isEmpty with
  | true => simp
  | false =>
      cases code.all isCodeDigit with
      | true => simp [codeEscape, eq_comm]
      | false => simp

/- What is reported for a text that is no code. -/
theorem codeSequence_eq_error_iff
    (code : Text)
    (fault : PaletteError) :
    codeSequence code = .error fault ↔
      code = [] ∧ fault = .emptyCode ∨
        code ≠ [] ∧ ¬ IsCode code ∧
          fault = .invalidCode code := by
  rw [isCode_iff, codeSequence]
  cases code with
  | nil => simp [eq_comm]
  | cons c rest =>
      cases (c :: rest).all isCodeDigit with
      | true => simp
      | false => simp [eq_comm]

end LogLine

------------------------------------------------------------
-- Colours
------------------------------------------------------------

namespace LogLine

namespace Color

/- The codes of a colour in order. -/
def codeList : Color → List Text
  | code text => [text]
  | codes texts => texts

/- A colour has a code, and nothing but codes. -/
def WellFormed
    (color : Color) : Prop :=
  color.codeList ≠ [] ∧ ∀ code ∈ color.codeList, IsCode code

/- The escape sequences of all codes of a colour. -/
def escapes
    (color : Color) :
    Text :=
  (color.codeList.map codeEscape).flatten

/-
  What is wrong with a colour: it has no code at all, or its
  first text that is no code is empty or holds other characters.
-/
inductive FaultIn
    (color : Color) : PaletteError → Prop where
  | emptySequence
      (hNone : color.codeList = []) :
      FaultIn color .emptySequence
  | emptyCode
      {before after : List Text}
      (hCodes : color.codeList = before ++ [] :: after)
      (hBefore : ∀ code ∈ before, IsCode code) :
      FaultIn color .emptyCode
  | invalidCode
      {before after : List Text}
      {code : Text}
      (hCodes : color.codeList = before ++ code :: after)
      (hBefore : ∀ code ∈ before, IsCode code)
      (hSome : code ≠ [])
      (hOther : ¬ IsCode code) :
      FaultIn color (.invalidCode code)

/- The sequences of the codes one after the other. -/
theorem sequence_eq_mapM
    (color : Color) :
    color.sequence =
      if color.codeList = [] then
        .error .emptySequence
      else
        (color.codeList.mapM codeSequence).map List.flatten := by
  cases color with
  | code code =>
      rw [sequence, codeList, if_neg (List.cons_ne_nil code [])]
      cases hSequence : codeSequence code with
      | error fault =>
          simp [hSequence, Except.map, bind, Except.bind]
      | ok text =>
          simp [hSequence, Except.map, bind, Except.bind, pure,
            Except.pure]
  | codes codes =>
      cases codes with
      | nil => rfl
      | cons code rest =>
          rw [sequence, codeList,
            if_neg (List.cons_ne_nil code rest)]
          cases (code :: rest).mapM codeSequence with
          | error fault => rfl
          | ok texts => rfl

theorem mapM_codeSequence_eq_ok_iff
    (codes texts : List Text) :
    codes.mapM codeSequence = .ok texts ↔
      (∀ code ∈ codes, IsCode code) ∧
        texts = codes.map codeEscape := by
  induction codes generalizing texts with
  | nil => simp [pure, Except.pure, eq_comm]
  | cons code codes ih =>
      rw [List.mapM_cons, List.forall_mem_cons, List.map_cons]
      simp only [bind_eq_ok_iff, codeSequence_eq_ok_iff, ih, pure,
        Except.pure, Except.ok.injEq]
      constructor
      · rintro ⟨text, ⟨hCode, rfl⟩, rest, ⟨hCodes, rfl⟩, rfl⟩
        exact ⟨⟨hCode, hCodes⟩, rfl⟩
      · rintro ⟨⟨hCode, hCodes⟩, rfl⟩
        exact ⟨_, ⟨hCode, rfl⟩, _, ⟨hCodes, rfl⟩, rfl⟩

theorem sequence_eq_ok_iff
    (color : Color)
    (text : Text) :
    color.sequence = .ok text ↔
      color.WellFormed ∧ text = color.escapes := by
  rw [sequence_eq_mapM, WellFormed, escapes]
  by_cases hNone : color.codeList = []
  · simp [hNone]
  · rw [if_neg hNone, map_eq_ok_iff]
    simp only [mapM_codeSequence_eq_ok_iff]
    constructor
    · rintro ⟨texts, ⟨hCodes, rfl⟩, rfl⟩
      exact ⟨⟨hNone, hCodes⟩, rfl⟩
    · rintro ⟨⟨-, hCodes⟩, rfl⟩
      exact ⟨_, ⟨hCodes, rfl⟩, rfl⟩

theorem exists_codeSequence_iff
    (code : Text) :
    (∃ text, codeSequence code = .ok text) ↔ IsCode code := by
  simp [codeSequence_eq_ok_iff]

theorem sequence_eq_error_iff
    (color : Color)
    (fault : PaletteError) :
    color.sequence = .error fault ↔ color.FaultIn fault := by
  rw [sequence_eq_mapM]
  by_cases hNone : color.codeList = []
  · rw [if_pos hNone]
    constructor
    · intro hFault
      cases hFault
      exact .emptySequence hNone
    · intro hFault
      cases hFault with
      | emptySequence => rfl
      | emptyCode hCodes => simp [hNone] at hCodes
      | invalidCode hCodes => simp [hNone] at hCodes
  · rw [if_neg hNone, map_eq_error_iff, mapM_eq_error_iff,
      FailsFirst]
    simp only [exists_codeSequence_iff,
      codeSequence_eq_error_iff]
    constructor
    · rintro ⟨before, code, after, hCodes, hBefore,
        ⟨rfl, rfl⟩ | ⟨hSome, hOther, rfl⟩⟩
      · exact .emptyCode hCodes hBefore
      · exact .invalidCode hCodes hBefore hSome hOther
    · intro hFault
      cases hFault with
      | emptySequence hEmpty => exact absurd hEmpty hNone
      | emptyCode hCodes hBefore =>
          exact ⟨_, _, _, hCodes, hBefore, Or.inl ⟨rfl, rfl⟩⟩
      | invalidCode hCodes hBefore hSome hOther =>
          exact
            ⟨_, _, _, hCodes, hBefore,
              Or.inr ⟨hSome, hOther, rfl⟩⟩

/- A colour that is well formed is no empty text. -/
theorem WellFormed.escapes_ne_nil
    {color : Color}
    (hColor : color.WellFormed) :
    color.escapes ≠ [] := by
  rcases List.exists_cons_of_ne_nil hColor.1 with
    ⟨code, rest, hCodes⟩
  rw [escapes, hCodes]
  exact List.cons_ne_nil _ _

end Color

end LogLine

------------------------------------------------------------
-- Palettes
------------------------------------------------------------

namespace LogLine

namespace Palette

variable {colors : LevelMap Color}

theorem exists_levelSequence_iff
    (colors : LevelMap Color)
    (level : Level) :
    (∃ text, levelSequence colors level = .ok text) ↔
      ∀ color, colors.Effective level color →
        color.WellFormed := by
  simp only [← LevelMap.get?_eq_some_iff, levelSequence]
  cases colors.get? level with
  | none => simp
  | some color => simp [Color.sequence_eq_ok_iff]

theorem levelSequence_eq_error_iff
    (colors : LevelMap Color)
    (level : Level)
    (fault : PaletteError) :
    levelSequence colors level = .error fault ↔
      ∃ color,
        colors.Effective level color ∧ color.FaultIn fault := by
  simp only [← LevelMap.get?_eq_some_iff, levelSequence]
  cases colors.get? level with
  | none => simp
  | some color => simp [Color.sequence_eq_error_iff]

/- The levels are taken in the order of their ranks. -/
theorem map_enter_ofColors
    (colors : LevelMap Color) :
    (ofColors colors).map
        (fun palette => Level.all.map palette.enter) =
      Level.all.mapM (levelSequence colors) := by
  unfold ofColors Level.all
  simp only [List.mapM_cons, List.mapM_nil]
  cases levelSequence colors .debug with
  | error fault => rfl
  | ok debug =>
      cases levelSequence colors .info with
      | error fault => rfl
      | ok info =>
          cases levelSequence colors .warning with
          | error fault => rfl
          | ok warning =>
              cases levelSequence colors .error with
              | error fault => rfl
              | ok error =>
                  cases levelSequence colors .critical with
                  | error fault => rfl
                  | ok critical => rfl

theorem exists_ofColors_iff
    (colors : LevelMap Color) :
    (∃ palette, ofColors colors = .ok palette) ↔
      ∀ level color, colors.Effective level color →
        color.WellFormed := by
  have hLevels :
      (∃ palette, ofColors colors = .ok palette) ↔
        ∃ texts,
          Level.all.mapM (levelSequence colors) = .ok texts := by
    simp only [← map_enter_ofColors, map_eq_ok_iff]
    constructor
    · rintro ⟨palette, hPalette⟩
      exact ⟨_, palette, hPalette, rfl⟩
    · rintro ⟨texts, palette, hPalette, -⟩
      exact ⟨palette, hPalette⟩
  rw [hLevels, exists_mapM_iff]
  simp only [exists_levelSequence_iff]
  exact
    ⟨fun hAll level => hAll level level.mem_all,
      fun hAll level _ => hAll level⟩

theorem ofColors_eq_error_iff
    (colors : LevelMap Color)
    (fault : PaletteError) :
    ofColors colors = .error fault ↔
      ∃ level color,
        colors.Effective level color ∧
        color.FaultIn fault ∧
        ∀ lower other, lower.rank < level.rank →
          colors.Effective lower other → other.WellFormed := by
  rw [← map_eq_error_iff, map_enter_ofColors, mapM_eq_error_iff,
    Level.failsFirst_all_iff]
  simp only [levelSequence_eq_error_iff,
    exists_levelSequence_iff]
  constructor
  · rintro ⟨level, ⟨color, hColor, hFault⟩, hLower⟩
    exact
      ⟨level, color, hColor, hFault, fun lower other hLess =>
        hLower lower hLess other⟩
  · rintro ⟨level, color, hColor, hFault, hLower⟩
    exact
      ⟨level, ⟨color, hColor, hFault⟩, fun lower hLess other =>
        hLower lower other hLess⟩

/- What is in front of a span: the colour of its level, if any. -/
theorem enter_of_effective
    {palette : Palette}
    (hPalette : ofColors colors = .ok palette)
    {level : Level}
    {color : Color}
    (hColor : colors.Effective level color) :
    color.WellFormed ∧ palette.enter level = color.escapes := by
  have hSequence := levelSequence_eq_enter hPalette level
  rw [← LevelMap.get?_eq_some_iff] at hColor
  rw [levelSequence, hColor] at hSequence
  exact (Color.sequence_eq_ok_iff _ _).mp hSequence

theorem enter_of_not_effective
    {palette : Palette}
    (hPalette : ofColors colors = .ok palette)
    {level : Level}
    (hNone : ∀ color, ¬ colors.Effective level color) :
    palette.enter level = [] := by
  have hSequence := levelSequence_eq_enter hPalette level
  simp only [← LevelMap.get?_eq_some_iff] at hNone
  rw [levelSequence, Option.eq_none_iff_forall_ne_some.mpr hNone]
    at hSequence
  exact (Except.ok.inj hSequence).symm

end Palette

/-
  Colours give a palette if those in effect are well formed,
  and else the fault of the lowest level is reported.  A
  palette puts the codes of a level's colour in front of a
  text and a reset behind it, or nothing at all, and nothing
  of that is seen.
-/
theorem palettes_follow_colors
    (colors : LevelMap Color) :
    ((∃ palette, Palette.ofColors colors = .ok palette) ↔
      ∀ level color, colors.Effective level color →
        color.WellFormed) ∧
    (∀ fault,
      Palette.ofColors colors = .error fault ↔
        ∃ level color,
          colors.Effective level color ∧
          color.FaultIn fault ∧
          ∀ lower other, lower.rank < level.rank →
            colors.Effective lower other → other.WellFormed) ∧
    (∀ palette,
      Palette.ofColors colors = .ok palette →
        ∀ level,
          ((∀ color, ¬ colors.Effective level color) →
            palette.enter level = []) ∧
          (∀ color, colors.Effective level color →
            palette.enter level = color.escapes ∧
              palette.enter level ≠ []) ∧
          palette.exit level =
            (if palette.enter level = [] then
              []
            else
              "\x1b[0m".toList) ∧
          ∀ text, '\x1b' ∉ text →
            deleteEscapes (palette.paint level text) = text) := by
  refine
    ⟨Palette.exists_ofColors_iff colors,
      Palette.ofColors_eq_error_iff colors, ?_⟩
  intro palette hPalette level
  refine
    ⟨Palette.enter_of_not_effective hPalette, ?_, rfl, ?_⟩
  · intro color hColor
    rcases Palette.enter_of_effective hPalette hColor with
      ⟨hWellFormed, hEnter⟩
    rw [hEnter]
    exact ⟨rfl, hWellFormed.escapes_ne_nil⟩
  · intro text hText
    exact
      Palette.deleteEscapes_paint
        (Palette.escapeRun_enter hPalette level) hText

/- Two codes for one level, a list without any for all others. -/
def halfColored : LevelMap Color :=
  (LevelMap.uniform (.codes [])).set .debug
    (.codes ["1".toList, "32;1".toList])

theorem palettes_follow_colors_of_info :
    Palette.ofColors halfColored = .error .emptySequence ∧
    ∃ level color,
      halfColored.Effective level color ∧
      color.FaultIn .emptySequence ∧
      ∀ lower other, lower.rank < level.rank →
        halfColored.Effective lower other →
          other.WellFormed := by
  have hFault :
      Palette.ofColors halfColored = .error .emptySequence :=
    rfl
  exact
    ⟨hFault,
      ((palettes_follow_colors halfColored).2.1 _).mp hFault⟩

end LogLine
