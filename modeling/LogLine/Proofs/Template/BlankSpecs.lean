import LogLine.Proofs.Format.SpecWriting
import LogLine.Proofs.Template.Concatenation
import LogLine.Proofs.Template.ResolvedSpecs

/-
  A value under a spec that asks for nothing, or for a width
  only, and fields that have no spec, an empty one, or one
  that turns out to be empty.

  Key definitions include:
    * `LogLine.Spec.ofWidth`
    * `LogLine.Value.displayIn`
    * `LogLine.BlankSpec`

  Key theorems include:
    * `LogLine.Spec.apply_ofWidth`
    * `LogLine.Spec.parse_ofNat`
    * `LogLine.BlankSpec.fill_eq`
    * `LogLine.blank_specs_print_alike`
-/

------------------------------------------------------------
-- Widths
------------------------------------------------------------

namespace LogLine

namespace Value

/- Integers and floating-point numbers. -/
def isNumber : Value → Bool
  | str _ => false
  | int _ => true
  | float _ => true
  | none => false

/-
  A value in a field of a width: blanks stand in front of a
  number and behind anything else.
-/
def displayIn
    (value : Value)
    (width : Nat) :
    Text :=
  let blanks : Text :=
    List.replicate (width - value.display.length) ' '
  if value.isNumber then
    blanks ++ value.display
  else
    value.display ++ blanks

end Value

namespace Spec

/- The spec that asks for a width and nothing else. -/
def ofWidth
    (width : Nat) :
    Spec :=
  { blank with width := some width }

theorem withoutWidth_ofWidth
    (width : Nat) :
    (ofWidth width).withoutWidth = blank :=
  rfl

/- The body of a value is that of its displayed text. -/
theorem exists_body_blank
    (value : Value) :
    ∃ body,
      blank.body value = .ok body ∧
        body.unpadded = value.display := by
  have hApply := apply_blank value
  rw [apply, map_eq_ok_iff] at hApply
  rcases hApply with ⟨body, hBody, hPad⟩
  rw [← withoutWidth_ofWidth 0, pad_withoutWidth] at hPad
  exact ⟨body, hBody, hPad⟩

theorem numeric_of_body_blank
    {value : Value}
    {body : Body}
    (hBody : blank.body value = .ok body) :
    body.numeric = value.isNumber := by
  rw [Bool.eq_iff_iff, (describes_of_body hBody).numeric]
  cases value with
  | str text => simp [writesNumber, Value.isNumber]
  | int n => simp [writesNumber, Value.isNumber, blank]
  | float x => simp [writesNumber, Value.isNumber]
  | none => simp [writesNumber, Value.isNumber]

/- The shorter field is filled with blanks on one side. -/
theorem apply_ofWidth
    (width : Nat)
    (value : Value) :
    (ofWidth width).apply value =
      .ok (value.displayIn width) := by
  rcases exists_body_blank value with ⟨body, hBody, hText⟩
  have hFilled := (ofWidth width).filledUp_pad body
  have hAlign :
      (ofWidth width).padAlign body.numeric =
        if value.isNumber then .right else .left := by
    rw [numeric_of_body_blank hBody]
    rfl
  rw [apply, ← body_withoutWidth, withoutWidth_ofWidth, hBody]
  refine congrArg Except.ok ?_
  rw [Value.displayIn, ← hText]
  generalize (ofWidth width).pad body = padded at hFilled ⊢
  rw [hAlign] at hFilled
  cases hNumber : value.isNumber with
  | true =>
      rw [hNumber, if_pos rfl] at hFilled
      cases hFilled
      rfl
  | false =>
      rw [hNumber, if_neg Bool.false_ne_true] at hFilled
      cases hFilled
      rfl

/- The parts of a text that is a width and nothing else. -/
def partsOfWidth
    (width : Nat) :
    SpecParts :=
  ⟨[], none, false, false, some (.digits (Text.ofNat width)),
    none, none, none⟩

theorem text_partsOfWidth
    (width : Nat) :
    (partsOfWidth width).text = Text.ofNat width :=
  List.append_nil (Text.ofNat width)

/- A number does not begin like any other part of a spec. -/
theorem not_startsIn_ofNat
    {inClass : Char → Bool}
    (hOther : ∀ c, inClass c = true → c.isDigit = false)
    (width : Nat) :
    ¬ Text.StartsIn inClass (Text.ofNat width) := by
  rintro ⟨c, hHead, hClass⟩
  have hDigit :=
    Text.isDigit_of_mem_ofNat (List.mem_of_mem_head? hHead)
  rw [hOther c hClass] at hDigit
  cases hDigit

theorem not_isDigit_of_isAlignChar
    {c : Char}
    (hAlign : SpecParts.isAlignChar c = true) :
    c.isDigit = false := by
  have hAll :
      ∀ d ∈ ['<', '>', '=', '^'], d.isDigit = false := by
    decide
  exact hAll c (of_decide_eq_true hAlign)

theorem not_isDigit_of_isSignChar
    {c : Char}
    (hSign : SpecParts.isSignChar c = true) :
    c.isDigit = false := by
  have hAll : ∀ d ∈ ['+', ' ', '-'], d.isDigit = false := by
    decide
  exact hAll c (of_decide_eq_true hSign)

/- So a number other than zero is all of a width. -/
theorem greedy_partsOfWidth
    {width : Nat}
    (hSome : width ≠ 0) :
    (partsOfWidth width).Greedy := by
  have hText :
      (partsOfWidth width).fromWidth = Text.ofNat width :=
    List.append_nil _
  constructor
  case align =>
      refine .absent fun c hMem => ?_
      change c ∈ (partsOfWidth width).fromWidth.take 2 at hMem
      rw [hText] at hMem
      have hDigit :=
        Text.isDigit_of_mem_ofNat (List.mem_of_mem_take hMem)
      by_contra hAlign
      rw [Bool.not_eq_false] at hAlign
      rw [not_isDigit_of_isAlignChar hAlign] at hDigit
      cases hDigit
  case sign =>
      change ¬ Text.StartsIn _ (partsOfWidth width).fromWidth
      rw [hText]
      exact
        not_startsIn_ofNat
          (fun _ => not_isDigit_of_isSignChar) width
  case alternate =>
      intro _
      change ¬ Text.StartsIn _ (partsOfWidth width).fromWidth
      rw [hText]
      exact not_startsIn_ofNat (by simp) width
  case zero =>
      intro _
      rw [hText]
      rintro ⟨c, hHead, hZero⟩
      rw [eq_of_beq hZero] at hHead
      exact
        head?_toDigits_ne_zero (by decide) (by decide) hSome
          hHead
  case width =>
      exact
        ⟨Nat.toDigits_ne_nil, fun c => Text.isDigit_of_mem_ofNat,
          Text.not_startsIn_nil⟩
  case grouping => exact Text.not_startsIn_nil
  case precision => exact Text.not_startsIn_nil

/- The text of a width is read as that width. -/
theorem parse_ofNat
    {width : Nat}
    (hSome : width ≠ 0)
    (hSmall : width ≤ maxCount) :
    parse (Text.ofNat width) = .ok (ofWidth width) := by
  rw [parse_eq_ok_iff, parse?_eq_some_iff]
  refine
    ⟨partsOfWidth width, text_partsOfWidth width,
      greedy_partsOfWidth hSome, ?_, ?_⟩
  · constructor
    · rintro count ⟨⟩
      show ¬ maxCount < Text.digitsValue (Text.ofNat width)
      rw [Text.digitsValue_ofNat, not_lt]
      exact hSmall
    · rintro count ⟨⟩
  · simp only [SpecParts.toSpec, partsOfWidth,
      Option.bind_some, Count.number?, Text.digitsValue_ofNat]
    rfl

end Spec

end LogLine

------------------------------------------------------------
-- Fields without a Format
------------------------------------------------------------

namespace LogLine

/-
  The spec of a field that asks for nothing: there is none, it
  is empty, or its fields give the empty text.
-/
inductive BlankSpec
    (lookup : Lookup) :
    Option Text → Prop where
  | absent : BlankSpec lookup none
  | empty : BlankSpec lookup (some [])
  | nested
      {source : Text}
      (hEmpty : fillText lookup source = .ok []) :
      BlankSpec lookup (some source)

variable {lookup : Lookup}

/- Only fields can leave nothing behind. -/
theorem unparse_eq_nil_of_fillTokens
    {tokens : List Token}
    (hFill : fillTokens lookup tokens = .ok [])
    (hPlain : '{' ∉ unparse tokens) :
    unparse tokens = [] := by
  induction tokens with
  | nil => rfl
  | cons token rest ih =>
      rw [unparse_cons, List.mem_append, not_or] at hPlain
      rw [fillTokens_cons_eq_ok_iff] at hFill
      rcases hFill with ⟨first, behind, hFirst, hBehind, hNone⟩
      rcases List.append_eq_nil_iff.mp hNone with ⟨rfl, rfl⟩
      rw [unparse_cons, ih hBehind hPlain.2, List.append_nil]
      cases token with
      | literal text =>
          cases hFirst
          rfl
      | field f =>
          exact absurd List.mem_cons_self hPlain.1

theorem open_mem_of_fillText_eq_nil
    {source : Text}
    (hEmpty : fillText lookup source = .ok [])
    (hSome : source ≠ []) :
    '{' ∈ source := by
  rw [fillText, bind_eq_ok_iff] at hEmpty
  rcases hEmpty with ⟨segments, hRead, hText⟩
  rw [mapError_eq_ok_iff] at hRead
  rcases tokenize_of_parseSegments hRead with
    ⟨tokens, hTokens, hPieces⟩
  rcases (tokenize_eq_ok_iff source tokens).mp hTokens with
    ⟨rfl, -, -⟩
  rw [renderSegments_eq_fillTokens hPieces] at hText
  by_contra hPlain
  exact hSome (unparse_eq_nil_of_fillTokens hText hPlain)

/- A name stays readable without a spec. -/
theorem Field.Readable.withoutSpec
    {name : Text}
    (hName : Field.Readable ⟨name, none, some [], 0⟩) :
    Field.Readable ⟨name, none, none, 0⟩ := by
  have hBody :
      Field.body ⟨name, none, some [], 0⟩ = name ++ [':'] :=
    rfl
  have hBare : Field.body ⟨name, none, none, 0⟩ = name :=
    List.append_nil name
  constructor
  case balanced =>
      have hBalanced := hName.balanced
      unfold BracesBalanced at hBalanced ⊢
      have hColon (depth : Nat) :
          braceDepth depth [':'] = some depth :=
        rfl
      rw [hBody, braceDepth_append] at hBalanced
      simp only [hColon, Option.bind_fun_some] at hBalanced
      rw [hBare]
      exact hBalanced
  case opening =>
      have hOpening := hName.opening
      rw [hBody] at hOpening
      rw [hBare]
      cases name with
      | nil => simp
      | cons c rest => exact hOpening
  case separators => exact hName.separators
  case closed => simp

/- A template that can be read has tokens. -/
theorem exists_tokenize_of_parse
    {source : Text}
    {template : Template}
    (hParse : Template.parse source = .ok template) :
    ∃ tokens, tokenize source = .ok tokens := by
  rcases (map_eq_ok_iff _ _ _).mp hParse with
    ⟨segments, hSegments, -⟩
  rcases tokenize_of_parseSegments hSegments with
    ⟨tokens, hTokens, -⟩
  exact ⟨tokens, hTokens⟩

namespace BlankSpec

variable {spec : Option Text}

/- A name that can have an empty spec can have any of these. -/
theorem readable
    (hBlank : BlankSpec lookup spec)
    {name : Text}
    (hName : Field.Readable ⟨name, none, some [], 0⟩) :
    Field.Readable ⟨name, none, spec, 0⟩ := by
  cases hBlank with
  | absent => exact hName.withoutSpec
  | empty => exact hName
  | nested hEmpty =>
      have hBalanced :=
        braceDepth_of_fillText hEmpty (List.forall_mem_nil _)
      exact hName.withSpec rfl (fun _ => rfl) hBalanced

/- A field with such a spec gives its value as displayed. -/
theorem fill_eq
    (hBlank : BlankSpec lookup spec)
    {name : Text}
    {value : Value}
    (hValue : lookup name = some value) :
    (Token.field ⟨name, none, spec, 0⟩).fill lookup =
      .ok value.display := by
  cases hBlank with
  | absent => exact Token.fill_eq_display rfl rfl hValue
  | empty => exact Token.fill_eq_display rfl rfl hValue
  | @nested source hEmpty =>
      by_cases hNone : source = []
      · subst hNone
        exact Token.fill_eq_display rfl rfl hValue
      · have hSpec :
            Token.nestedSpec?
                (.field ⟨name, none, some source, 0⟩) =
              some source :=
          Token.nestedSpec?_eq_some_iff.mpr
            ⟨rfl, open_mem_of_fillText_eq_nil hEmpty hNone⟩
        have hConverted :
            lookup.valueFor name none = .ok value := by
          rw [Lookup.valueFor, hValue]
        rw [Token.fill_of_nestedSpec? hSpec, hEmpty]
        simp only [bind_eq_ok_iff]
        exact
          ⟨none, rfl, value, hConverted, [], rfl,
            congrArg liftFormat (Spec.apply_blank value)⟩

/- Such a field is a template of its own. -/
theorem exists_parse_write
    (hBlank : BlankSpec lookup spec)
    {name : Text}
    (hName : Field.Readable ⟨name, none, some [], 0⟩)
    {value : Value}
    (hValue : lookup name = some value) :
    tokenize (Field.write name none spec) =
        .ok [.field ⟨name, none, spec, 0⟩] ∧
      ∃ template,
        Template.parse (Field.write name none spec) =
            .ok template ∧
          template.render lookup = .ok value.display := by
  have hFill := hBlank.fill_eq hValue
  generalize hToken :
    Token.field ⟨name, none, spec, 0⟩ = token at hFill ⊢
  have hWritten :
      Field.write name none spec = unparse [token] := by
    rw [← hToken]
    exact (List.append_nil _).symm
  have hReadable : ∀ own ∈ [token], own.Readable := by
    rw [List.forall_mem_singleton, ← hToken]
    exact hBlank.readable hName
  rcases Token.exists_segment_of_fill hFill with
    ⟨piece, hPiece⟩
  have hRead : readSegments [token] = .ok [piece] := by
    rw [readSegments, hPiece]
    cases piece <;> rfl
  rw [hWritten]
  refine ⟨?_, ⟨unparse [token], [piece]⟩, ?_, ?_⟩
  · rw [tokenize_unparse hReadable, ← hToken]
    rfl
  · rw [Template.parse_unparse hReadable, hRead]
    rfl
  · rw [Template.render, renderSegments_eq_fillTokens hRead,
      fillTokens, hFill]
    exact congrArg Except.ok (List.append_nil _)

end BlankSpec

end LogLine

------------------------------------------------------------
-- Values as Displayed
------------------------------------------------------------

namespace LogLine

/-
  A spec that asks for nothing leaves a value as it is
  displayed, and a width fills that up with blanks.  So it
  makes no difference whether a field has no spec, an empty
  one, or one that turns out to be empty, wherever in a
  template the field stands.
-/
theorem blank_specs_print_alike
    (value : Value) :
    (∃ spec,
      Spec.parse [] = .ok spec ∧
        spec.apply value = .ok value.display) ∧
    (∀ width,
      (Spec.ofWidth width).apply value =
          .ok (value.displayIn width) ∧
        (width ≠ 0 → width ≤ Spec.maxCount →
          Spec.parse (Text.ofNat width) =
            .ok (.ofWidth width))) ∧
    (∀ lookup name spec,
      Field.Readable ⟨name, none, some [], 0⟩ →
      lookup name = some value →
      BlankSpec lookup spec →
        ∃ template,
          Template.parse (Field.write name none spec) =
              .ok template ∧
            template.render lookup = .ok value.display) ∧
    (∀ lookup name spec first second front back,
      Field.Readable ⟨name, none, some [], 0⟩ →
      lookup name = some value →
      BlankSpec lookup spec →
      Template.parse first = .ok front →
      Template.parse second = .ok back →
        ∃ template,
          Template.parse
              (first ++
                (Field.write name none spec ++ second)) =
            .ok template ∧
            template.render lookup =
              (do
                let line ← front.render lookup
                let behind ← back.render lookup
                return line ++ (value.display ++ behind))) := by
  refine ⟨⟨.blank, rfl, Spec.apply_blank value⟩, ?_, ?_, ?_⟩
  · intro width
    exact ⟨Spec.apply_ofWidth width value, Spec.parse_ofNat⟩
  · intro lookup name spec hName hValue hBlank
    exact (hBlank.exists_parse_write hName hValue).2
  · intro lookup name spec first second front back hName hValue
      hBlank hFront hBack
    rcases hBlank.exists_parse_write hName hValue with
      ⟨hToken, own, hOwn, hDisplay⟩
    rcases exists_tokenize_of_parse hFront with
      ⟨tokens, hTokens⟩
    refine ⟨front.append (own.append back), ?_, ?_⟩
    · rw [Template.parse_append hTokens, hFront,
        Template.parse_append hToken, hOwn, hBack]
      rfl
    · rw [Template.render_append, Template.render_append,
        hDisplay]
      cases front.render lookup with
      | error fault => rfl
      | ok line =>
          cases back.render lookup with
          | error fault => rfl
          | ok behind => rfl

/- A negative zero, and an empty text for its spec. -/
def zeroLookup : Lookup :=
  (Dict.ofList
    [("x".toList, .float (.zero true)),
     ("spec".toList, .str [])]).get?

theorem blank_specs_print_alike_of_zero :
    fillText zeroLookup "\x7bspec\x7d".toList = .ok [] ∧
    ∃ template,
      Template.parse "\x7bx:\x7bspec\x7d\x7d".toList =
          .ok template ∧
        template.render zeroLookup = .ok "-0.0".toList := by
  have hSpec :
      fillText zeroLookup "\x7bspec\x7d".toList = .ok [] := by
    decide +kernel
  have hName :
      Field.Readable ⟨"x".toList, none, some [], 0⟩ := by
    rw [Field.readable_iff]
    decide
  have hZero :
      Value.display (.float (.zero true)) = "-0.0".toList := by
    decide
  rw [← hZero]
  exact
    ⟨hSpec,
      (blank_specs_print_alike (.float (.zero true))).2.2.1
        zeroLookup "x".toList _ hName rfl (.nested hSpec)⟩

end LogLine
