import LogLine.Proofs.Rendering.MissingFields
import Mathlib.Data.List.TakeWhile

/-
  Templates whose specs do no more than pad: a record of any
  shape fills them in.

  Key definitions include:
    * `LogLine.PaddingText`
    * `LogLine.Spec.PadsOnly`
    * `LogLine.Token.OnlyPads`

  Key theorems include:
    * `LogLine.PaddingText.padsOnly`
    * `LogLine.Spec.PadsOnly.exists_apply`
    * `LogLine.render_total_on_padding`
-/

------------------------------------------------------------
-- Padding Texts
------------------------------------------------------------

namespace LogLine

/- The sides that a padded value can stand on. -/
def sides : List Char :=
  ['<', '>', '^']

/-
  A spec that asks for a side and a width at most, both in
  plain text.  The digits are `["0"] [width]`.
-/
inductive PaddingText : Text → Prop where
  | width
      {digits : Text}
      (hDigits : ∀ c ∈ digits, c.isDigit = true) :
      PaddingText digits
  | aligned
      {side : Char}
      {digits : Text}
      (hSide : side ∈ sides)
      (hDigits : ∀ c ∈ digits, c.isDigit = true) :
      PaddingText (side :: digits)
  | filled
      (fill : Char)
      {side : Char}
      {digits : Text}
      (hSide : side ∈ sides)
      (hDigits : ∀ c ∈ digits, c.isDigit = true) :
      PaddingText (fill :: side :: digits)

namespace PaddingText

theorem singleton_iff
    (c : Char) :
    PaddingText [c] ↔ c.isDigit = true ∨ c ∈ sides := by
  constructor
  · rintro (hDigits | ⟨hSide, -⟩)
    · exact Or.inl (hDigits c List.mem_cons_self)
    · exact Or.inr hSide
  · rintro (hDigit | hSide)
    · exact .width (List.forall_mem_singleton.mpr hDigit)
    · exact .aligned hSide (List.forall_mem_nil _)

theorem cons_cons_iff
    (c d : Char)
    (rest : Text) :
    PaddingText (c :: d :: rest) ↔
      (∀ e ∈ rest, e.isDigit = true) ∧
        (d ∈ sides ∨
          d.isDigit = true ∧
            (c.isDigit = true ∨ c ∈ sides)) := by
  constructor
  · rintro (hDigits | ⟨hSide, hDigits⟩ | ⟨-, hSide, hDigits⟩)
    · rw [List.forall_mem_cons, List.forall_mem_cons] at hDigits
      exact
        ⟨hDigits.2.2, Or.inr ⟨hDigits.2.1, Or.inl hDigits.1⟩⟩
    · rw [List.forall_mem_cons] at hDigits
      exact ⟨hDigits.2, Or.inr ⟨hDigits.1, Or.inr hSide⟩⟩
    · exact ⟨hDigits, Or.inl hSide⟩
  · rintro ⟨hRest, hSide | ⟨hSecond, hFirst | hSide⟩⟩
    · exact .filled c hSide hRest
    · apply PaddingText.width
      rw [List.forall_mem_cons, List.forall_mem_cons]
      exact ⟨hFirst, hSecond, hRest⟩
    · apply PaddingText.aligned hSide
      rw [List.forall_mem_cons]
      exact ⟨hSecond, hRest⟩

instance :
    DecidablePred PaddingText
  | [] => isTrue (.width (List.forall_mem_nil _))
  | [c] => decidable_of_iff _ (singleton_iff c).symm
  | c :: d :: rest =>
      decidable_of_iff _ (cons_cons_iff c d rest).symm

end PaddingText

theorem isBrace_of_isDigit
    {c : Char}
    (hDigit : c.isDigit = true) :
    isBrace c = false := by
  unfold isBrace
  rw [Bool.or_eq_false_iff, beq_eq_false_iff_ne,
    beq_eq_false_iff_ne]
  constructor
  · rintro rfl
    exact absurd hDigit (by decide)
  · rintro rfl
    exact absurd hDigit (by decide)

theorem isBrace_of_mem_sides :
    ∀ side ∈ sides, isBrace side = false := by
  decide

/- Only the fill can be a brace, and then it stays open. -/
theorem PaddingText.not_mem_open
    {text : Text}
    (hText : PaddingText text)
    (hBalanced : BracesBalanced text) :
    '{' ∉ text := by
  intro hOpen
  have hOther : isBrace '{' = true := rfl
  cases hText with
  | width hDigits =>
      rw [isBrace_of_isDigit (hDigits _ hOpen)] at hOther
      cases hOther
  | aligned hSide hDigits =>
      rcases List.mem_cons.mp hOpen with rfl | hLater
      · rw [isBrace_of_mem_sides _ hSide] at hOther
        cases hOther
      · rw [isBrace_of_isDigit (hDigits _ hLater)] at hOther
        cases hOther
  | @filled fill side digits hSide hDigits =>
      have hPlain : ∀ c ∈ side :: digits, isBrace c = false := by
        rw [List.forall_mem_cons]
        exact
          ⟨isBrace_of_mem_sides side hSide,
            fun c hMem => isBrace_of_isDigit (hDigits c hMem)⟩
      rcases List.mem_cons.mp hOpen with rfl | hLater
      · have hDepth :
            braceDepth 0 ('{' :: side :: digits) = some 1 :=
          braceDepth_of_plain hPlain 1
        unfold BracesBalanced at hBalanced
        rw [hDepth] at hBalanced
        cases hBalanced
      · rw [hPlain _ hLater] at hOther
        cases hOther

end LogLine

------------------------------------------------------------
-- Specs That Only Pad
------------------------------------------------------------

namespace LogLine

namespace Spec

/- A spec that changes no value but fills up its field. -/
structure PadsOnly
    (spec : Spec) : Prop where
  align : spec.align ≠ some .afterSign
  sign : spec.sign = none
  alternate : spec.alternate = false
  grouping : spec.grouping = none
  precision : spec.precision = none
  code : spec.code = none

end Spec

theorem Align.ofChar?_of_isDigit
    {c : Char}
    (hDigit : c.isDigit = true) :
    ofChar? c = none := by
  unfold ofChar?
  split
  case h_5 => rfl
  all_goals exact absurd hDigit (by decide)

theorem Align.ofChar?_of_mem_sides :
    ∀ side ∈ sides,
      ∃ align, ofChar? side = some align ∧
        align ≠ .afterSign := by
  intro side hSide
  simp only [sides, List.mem_cons, List.not_mem_nil,
    or_false] at hSide
  rcases hSide with rfl | rfl | rfl
  · exact ⟨.left, rfl, by decide⟩
  · exact ⟨.right, rfl, by decide⟩
  · exact ⟨.center, rfl, by decide⟩

/- Behind the alignment a padding text has digits only. -/
theorem PaddingText.takeAlign
    {text : Text}
    (hText : PaddingText text) :
    ∃ fill align digits,
      Spec.takeAlign text = ((fill, align), digits) ∧
      align ≠ some .afterSign ∧
      ∀ c ∈ digits, c.isDigit = true := by
  cases hText with
  | width hDigits =>
      match text with
      | [] => exact ⟨none, none, [], rfl, by decide, hDigits⟩
      | [c] =>
          refine ⟨none, none, [c], ?_, by decide, hDigits⟩
          have hFirst := hDigits c List.mem_cons_self
          simp only [Spec.takeAlign,
            Align.ofChar?_of_isDigit hFirst]
      | c :: d :: rest =>
          refine ⟨none, none, _, ?_, by decide, hDigits⟩
          have hFirst := hDigits c List.mem_cons_self
          have hSecond :=
            hDigits d
              (List.mem_cons_of_mem c List.mem_cons_self)
          simp only [Spec.takeAlign,
            Align.ofChar?_of_isDigit hFirst,
            Align.ofChar?_of_isDigit hSecond]
  | @aligned side digits hSide hDigits =>
      rcases Align.ofChar?_of_mem_sides side hSide with
        ⟨align, hAlign, hOther⟩
      refine ⟨none, some align, digits, ?_, ?_, hDigits⟩
      · cases digits with
        | nil => simp only [Spec.takeAlign, hAlign]
        | cons d rest =>
            have hDigit := hDigits d List.mem_cons_self
            simp only [Spec.takeAlign, hAlign,
              Align.ofChar?_of_isDigit hDigit]
      · intro hSame
        exact hOther (Option.some.inj hSame)
  | @filled fill side digits hSide hDigits =>
      rcases Align.ofChar?_of_mem_sides side hSide with
        ⟨align, hAlign, hOther⟩
      refine ⟨some fill, some align, digits, ?_, ?_, hDigits⟩
      · simp only [Spec.takeAlign, hAlign]
      · intro hSame
        exact hOther (Option.some.inj hSame)

section Digits

variable {digits : Text}

theorem takeSign_of_digits
    (hDigits : ∀ c ∈ digits, c.isDigit = true) :
    Spec.takeSign digits = (none, digits) := by
  cases digits with
  | nil => rfl
  | cons c rest =>
      have hDigit := hDigits c List.mem_cons_self
      exact
        Spec.takeSign_of_startsIn
          (Text.startsIn_isAlphanum
            (Text.startsIn_cons.mpr hDigit))

theorem takeAlternate_of_digits
    (hDigits : ∀ c ∈ digits, c.isDigit = true) :
    Spec.takeFlag '#' digits = (false, digits) := by
  cases digits with
  | nil => rfl
  | cons c rest =>
      have hDigit := hDigits c List.mem_cons_self
      refine if_neg ?_
      rintro rfl
      exact absurd hDigit (by decide)

theorem takeZero_of_digits
    (hDigits : ∀ c ∈ digits, c.isDigit = true) :
    ∃ zero rest,
      Spec.takeFlag '0' digits = (zero, rest) ∧
        ∀ c ∈ rest, c.isDigit = true := by
  cases digits with
  | nil => exact ⟨false, [], rfl, hDigits⟩
  | cons c rest =>
      by_cases hZero : c = '0'
      · refine ⟨true, rest, if_pos hZero, ?_⟩
        exact (List.forall_mem_cons.mp hDigits).2
      · exact ⟨false, c :: rest, if_neg hZero, hDigits⟩

/- Digits are one number, unless that is too large. -/
theorem takeCount_of_digits
    (hDigits : ∀ c ∈ digits, c.isDigit = true)
    {count : Option Nat}
    {rest : Text}
    (hCount : Spec.takeCount digits = some (count, rest)) :
    rest = [] := by
  have hDrop : digits.dropWhile Char.isDigit = [] :=
    List.dropWhile_eq_nil_iff.mpr hDigits
  unfold Spec.takeCount at hCount
  simp only [hDrop] at hCount
  split at hCount
  · cases hCount
    rfl
  · split at hCount
    · cases hCount
      rfl
    · cases hCount

end Digits

/- A padding text is a spec that only pads. -/
theorem PaddingText.padsOnly
    {text : Text}
    (hText : PaddingText text)
    {spec : Spec}
    (hParse : Spec.parse text = .ok spec) :
    spec.PadsOnly := by
  have hSome := Spec.parse_eq_ok_iff.mp hParse
  rcases hText.takeAlign with
    ⟨fill, align, digits, hAlign, hSide, hDigits⟩
  rcases takeZero_of_digits hDigits with
    ⟨zero, rest, hZero, hRest⟩
  unfold Spec.parse? at hSome
  simp only [hAlign, takeSign_of_digits hDigits,
    takeAlternate_of_digits hDigits, hZero,
    Option.bind_eq_bind, Option.bind_eq_some_iff] at hSome
  rcases hSome with
    ⟨⟨count, behind⟩, hCount, ⟨precision, last⟩, hPrecision,
      code, hCode, hSpec⟩
  have hEnd := takeCount_of_digits hRest hCount
  subst hEnd
  -- Nothing is left for the parts behind the width.
  cases hPrecision
  cases hCode
  cases hSpec
  exact ⟨hSide, rfl, rfl, rfl, rfl, rfl⟩

end LogLine

------------------------------------------------------------
-- Padding Any Value
------------------------------------------------------------

namespace LogLine

namespace Spec

namespace PadsOnly

variable {spec : Spec}

theorem exists_textBody
    (hSpec : spec.PadsOnly)
    (text : Text) :
    ∃ body, spec.textBody text = .ok body := by
  unfold textBody
  rw [hSpec.code, hSpec.sign, hSpec.alternate, hSpec.grouping,
    if_neg hSpec.align]
  exact ⟨_, rfl⟩

theorem exists_integerBody
    (hSpec : spec.PadsOnly)
    (n : Int64) :
    ∃ body, spec.integerBody n = .ok body := by
  unfold integerBody digitsBody
  rw [hSpec.code, hSpec.precision, hSpec.grouping]
  exact ⟨_, rfl⟩

theorem exists_floatBody
    (hSpec : spec.PadsOnly)
    (x : Binary64) :
    ∃ body, spec.floatBody x = .ok body := by
  have hText : ∃ text, spec.magnitudeText x = .ok text := by
    unfold magnitudeText finiteText
    rw [hSpec.code, hSpec.precision]
    by_cases hFinite : x.isFinite = true
    · rw [if_pos hFinite]
      exact ⟨_, rfl⟩
    · rw [if_neg hFinite]
      exact ⟨_, rfl⟩
  rcases hText with ⟨text, hText⟩
  unfold floatBody grouped
  rw [hText, hSpec.grouping]
  exact ⟨_, rfl⟩

/- Whatever kind a value is of, it can be padded. -/
theorem exists_apply
    (hSpec : spec.PadsOnly)
    (value : Value) :
    ∃ text, spec.apply value = .ok text := by
  have hBody : ∃ body, spec.body value = .ok body := by
    cases value with
    | str text => exact hSpec.exists_textBody text
    | int n => exact hSpec.exists_integerBody n
    | float x => exact hSpec.exists_floatBody x
    | none => exact hSpec.exists_textBody _
  rcases hBody with ⟨body, hBody⟩
  unfold apply
  rw [hBody]
  exact ⟨_, rfl⟩

end PadsOnly

end Spec

end LogLine

------------------------------------------------------------
-- Padded Fields
------------------------------------------------------------

namespace LogLine

namespace Field

theorem isBrace_of_conversion?
    {f : Field}
    {conversion : Option Conversion}
    (hConversion : f.conversion? = .ok conversion) :
    ∀ c ∈ f.conversion, isBrace c = false := by
  intro c hChar
  have hSome : f.conversion = some c := hChar
  unfold conversion? at hConversion
  rw [hSome] at hConversion
  cases hKnown : Conversion.ofChar? c with
  | none => simp [hKnown] at hConversion
  | some known =>
      unfold isBrace
      rw [Bool.or_eq_false_iff, beq_eq_false_iff_ne,
        beq_eq_false_iff_ne]
      constructor
      · rintro rfl
        cases hKnown
      · rintro rfl
        cases hKnown

/- Behind a balanced name the spec of a field balances. -/
theorem balanced_of_effectiveSpec
    {f : Field}
    (hReadable : f.Readable)
    (hName : BracesBalanced f.name)
    {conversion : Option Conversion}
    (hConversion : f.conversion? = .ok conversion)
    {spec : Text}
    (hSpec : f.effectiveSpec = some spec) :
    BracesBalanced spec := by
  have hTail := hReadable.balanced
  unfold BracesBalanced at hTail ⊢
  rw [braceDepth_body hName,
    ← braceDepth_writeTail_effectiveSpec, hSpec] at hTail
  cases hChar : f.conversion with
  | none =>
      rw [hChar] at hTail
      exact
        (braceDepth_cons_of_not_isBrace (by decide) 0
          spec).symm.trans hTail
  | some c =>
      rw [hChar] at hTail
      have hPlain :=
        isBrace_of_conversion? hConversion c hChar
      have hFront :
          ∀ d ∈ ['!', c, ':'], isBrace d = false := by
        rw [List.forall_mem_cons, List.forall_mem_cons,
          List.forall_mem_singleton]
        exact ⟨by decide, hPlain, by decide⟩
      have hDepth :
          braceDepth 0 (['!', c, ':'] ++ spec) = some 0 :=
        hTail
      rw [braceDepth_append, braceDepth_of_plain hFront]
        at hDepth
      exact hDepth

end Field

/-
  A field has a name, and its spec only pads if it has one;
  text needs neither.
-/
def Token.OnlyPads : Token → Prop
  | literal _ => True
  | field f =>
      f.name ≠ [] ∧ ∀ spec ∈ f.effectiveSpec, PaddingText spec

instance :
    DecidablePred Token.OnlyPads
  | .literal _ => inferInstanceAs (Decidable True)
  | .field f =>
      inferInstanceAs
        (Decidable
          (f.name ≠ [] ∧
            ∀ spec ∈ f.effectiveSpec, PaddingText spec))

/- A field with a value and a padding spec has a text. -/
theorem exists_fill_of_padding
    {lookup : Lookup}
    {f : Field}
    (hReadable : f.Readable)
    (hName : BracesBalanced f.name)
    (hSpec : ∀ spec ∈ f.effectiveSpec, PaddingText spec)
    {piece : Segment}
    (hPiece : f.piece = .ok piece)
    {value : Value}
    (hValue : lookup f.name = some value) :
    ∃ text, piece.fill lookup = .ok text := by
  have hConverted :
      ∀ conversion,
        ∃ converted,
          lookup.valueFor f.name conversion = .ok converted := by
    intro conversion
    unfold Lookup.valueFor
    rw [hValue]
    cases conversion with
    | none => exact ⟨_, rfl⟩
    | some conversion => exact ⟨_, rfl⟩
  have hFlat :
      ∀ spec, f.effectiveSpec = some spec → '{' ∉ spec := by
    intro spec hSome
    have hConversion := hPiece
    unfold Field.piece at hConversion
    rw [bind_eq_ok_iff] at hConversion
    rcases hConversion with ⟨conversion, hConversion, -⟩
    exact
      (hSpec spec hSome).not_mem_open
        (Field.balanced_of_effectiveSpec hReadable hName
          hConversion hSome)
  rcases Field.piece_eq_ok hPiece with
    ⟨conversion, ⟨-, rfl⟩ | ⟨spec, parsed, hSome, -, hParse, rfl⟩ |
      ⟨spec, nested, hSome, hOpen, -, rfl⟩ |
      ⟨spec, fault, hSome, hOpen, -, rfl⟩⟩
  · rcases hConverted conversion with ⟨converted, hFound⟩
    rw [Segment.fill, hFound]
    exact ⟨_, rfl⟩
  · rcases hConverted conversion with ⟨converted, hFound⟩
    rcases ((hSpec spec hSome).padsOnly hParse).exists_apply
        converted with
      ⟨text, hText⟩
    rw [Segment.fill, hFound]
    refine ⟨text, ?_⟩
    show liftFormat (parsed.apply converted) = _
    rw [hText]
    rfl
  · exact absurd hOpen (hFlat spec hSome)
  · exact absurd hOpen (hFlat spec hSome)

end LogLine

------------------------------------------------------------
-- Padded Lines
------------------------------------------------------------

namespace LogLine

/- A known template that only pads has a text for any record. -/
theorem KnownTemplate.exists_render_of_padding
    {renderer : Renderer}
    {template : Template}
    {tokens : List Token}
    (hTemplate :
      KnownTemplate (intrinsicNames ++ renderer.defaults.keys)
        template tokens)
    (hUnbraced :
      ∀ key ∈ renderer.defaults.keys, ∀ c ∈ key,
        isBrace c = false)
    (hPadding : ∀ token ∈ tokens, token.OnlyPads)
    (level : Level)
    (record : Record)
    (color : Bool) :
    ∃ line,
      template.render
          (renderer.table level record color).get? =
        .ok line := by
  have hNames :
      ∀ name ∈ intrinsicNames ++ renderer.defaults.keys,
        ∀ c ∈ name, isBrace c = false := by
    rw [List.forall_mem_append]
    exact ⟨unbraced_of_mem_intrinsicNames, hUnbraced⟩
  have hFill :
      ∀ token ∈ tokens,
        ∃ text,
          token.fill (renderer.table level record color).get? =
            .ok text := by
    intro token hMem
    rcases readSegments_readable hTemplate.pieces token hMem with
      ⟨piece, hPiece⟩
    rw [Token.fill_of_segment hPiece]
    cases token with
    | literal text =>
        cases hPiece
        exact ⟨text, rfl⟩
    | field f =>
        rcases hPadding _ hMem with ⟨hName, hSpec⟩
        have hKnown := hTemplate.known f hMem hName
        rcases Renderer.exists_get?_table_of_knownName hKnown level
            color with
          ⟨value, hValue⟩
        rw [Token.segment_field] at hPiece
        exact
          exists_fill_of_padding (hTemplate.readable _ hMem)
            (braceDepth_of_plain (hKnown.unbraced hNames) 0)
            hSpec hPiece hValue
  rcases exists_fillTokens hFill with ⟨line, hLine⟩
  refine ⟨line, ?_⟩
  rw [Template.render,
    renderSegments_eq_fillTokens hTemplate.pieces, hLine]

/-
  If the fields of the selected template have names and their
  specs only pad, every record of the level gives a line.
-/
theorem render_total_on_padding
    {settings : Settings}
    {built : Renderer}
    (hBuild : settings.build = .ok built)
    (hUnbraced :
      ∀ key ∈ settings.defaults.keys, ∀ c ∈ key,
        isBrace c = false)
    (supported : Bool)
    {level : Level}
    {template : Template}
    (hSelect :
      (built.decideColor supported).2.select level =
        .ok template)
    (hPadding :
      ∀ token ∈ (scan template.source).tokens,
        token.OnlyPads) :
    ∀ record : Record, record.level = level →
      ∃ line,
        ((built.decideColor supported).2.render record).1 =
          .ok line := by
  rintro record rfl
  rcases (Renderer.select_eq_ok_iff _ _ _).mp hSelect with
    ⟨color, hMode, rfl⟩
  have hBalanced :
      ∀ key ∈ settings.defaults.keys, BracesBalanced key :=
    fun key hKey => braceDepth_of_plain (hUnbraced key hKey) 0
  rw [Renderer.decideColor_snd] at hMode hPadding ⊢
  have hDefaults := Settings.defaults_of_build hBuild
  rcases Settings.exists_knownTemplate hBuild hBalanced color
      record.level with
    ⟨tokens, hTemplate⟩
  rw [← hDefaults] at hTemplate hUnbraced
  have hRead := tokenize_unparse hTemplate.readable
  have hOwn : ∀ token ∈ tokens, token.OnlyPads := by
    intro token hMem
    cases token with
    | literal text => exact trivial
    | field f =>
        rcases exists_offset_mem_read hTemplate.readable hRead
            hMem with
          ⟨offset, hPlaced⟩
        apply hPadding (.field { f with offset })
        rw [(tokenize_eq_ok_iff_scan _ _).mp
          (hTemplate.source ▸ hRead)]
        exact hPlaced
  rw [Renderer.render_fst hMode]
  rcases hTemplate.exists_render_of_padding hUnbraced hOwn
      record.level
      (built.withTime (built.templateFor color record.level)
        record)
      color with
    ⟨line, hLine⟩
  exact ⟨_, congrArg (Except.map _) hLine⟩

/-
  A group whose bounds have a spec, a conversion, and a fill
  that is a digit.
-/
def paddedSettings : Settings :=
  { Settings.blank with
    templates :=
      LevelMap.uniform
        ("\x7benter:^3\x7d\x7blevelname!r:*<08\x7d" ++
          "\x7b_user:0>6\x7d\x7bexit\x7d " ++
          "\x7bmessage:\x7d \x7bmsecs:12\x7d").toList
    defaults := Dict.ofList [("user".toList, .none)]
    palettes :=
      Dict.ofList [("levelname".toList, Settings.levelColors)] }

theorem render_total_on_padding_of_group :
    ∃ built template,
      paddedSettings.build = .ok built ∧
      (∀ key ∈ paddedSettings.defaults.keys, ∀ c ∈ key,
        isBrace c = false) ∧
      (built.decideColor true).2.select .info = .ok template ∧
      (∀ token ∈ (scan template.source).tokens,
        token.OnlyPads) ∧
      ∀ record : Record, record.level = .info →
        ∃ line,
          ((built.decideColor true).2.render record).1 =
            .ok line := by
  have hKeys :
      ∀ key ∈ paddedSettings.defaults.keys, ∀ c ∈ key,
        isBrace c = false := by
    decide
  have hRun :
      (paddedSettings.build.toOption.bind fun built =>
        ((built.decideColor true).2.select
          .info).toOption.map fun (template : Template) =>
            decide
              (∀ token ∈ (scan template.source).tokens,
                token.OnlyPads)) =
        some true := by
    decide +kernel
  simp only [Option.bind_eq_some_iff, Option.map_eq_some_iff,
    toOption_eq_some_iff, decide_eq_true_eq] at hRun
  rcases hRun with ⟨built, hBuild, template, hSelect, hPadding⟩
  exact
    ⟨built, template, hBuild, hKeys, hSelect, hPadding,
      render_total_on_padding hBuild hKeys true hSelect
        hPadding⟩

end LogLine
