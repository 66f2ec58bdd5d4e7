import LogLine.Proofs.Format.Padding
import LogLine.Proofs.Template.NamesOnly

/-
  Specs that hold fields, put in as the texts that they give.
  A template with such texts in their places is read, and
  gives the same line, although its specs are read at once
  and not each time it is filled in.

  Key definitions include:
    * `LogLine.Token.nestedSpec?`
    * `LogLine.Token.resolved`
    * `LogLine.resolveSpecs`
    * `LogLine.Resolution`

  Key theorems include:
    * `LogLine.braceDepth_of_fillText`
    * `LogLine.Token.fill_of_nestedSpec?`
    * `LogLine.Resolution.fill_eq_ok`
    * `LogLine.Template.nestedSpecs_eq`
    * `LogLine.resolved_specs_give_same_line`
-/

------------------------------------------------------------
-- Resolved Specs
------------------------------------------------------------

namespace LogLine

namespace Token

/- The spec of a field, if it holds fields. -/
def nestedSpec? : Token → Option Text
  | literal _ => none
  | field f => f.spec.filter (fun spec => '{' ∈ spec)

theorem nestedSpec?_eq_some_iff
    {f : Field}
    {spec : Text} :
    (field f).nestedSpec? = some spec ↔
      f.spec = some spec ∧ '{' ∈ spec := by
  rw [nestedSpec?, Option.filter_eq_some_iff,
    decide_eq_true_eq]

/- An empty spec holds no fields. -/
theorem nestedSpec?_eq_filter_effectiveSpec
    (f : Field) :
    (field f).nestedSpec? =
      f.effectiveSpec.filter (fun spec => '{' ∈ spec) := by
  rcases f with ⟨name, conversion, spec, offset⟩
  cases spec with
  | none => rfl
  | some text =>
      cases text with
      | nil => rfl
      | cons c rest => rfl

theorem nestedSpec?_of_segment
    {token : Token}
    {piece : Segment}
    (hPiece : token.segment = .ok piece) :
    piece.nestedSpec? = token.nestedSpec? := by
  cases token with
  | literal text =>
      cases hPiece
      rfl
  | field f =>
      rw [segment_field] at hPiece
      rw [nestedSpec?_eq_filter_effectiveSpec]
      rcases Field.piece_eq_ok hPiece with
        ⟨conversion, ⟨hSpec, rfl⟩ |
          ⟨spec, parsed, hSpec, hOpen, -, rfl⟩ |
          ⟨spec, nested, hSpec, hOpen, -, rfl⟩ |
          ⟨spec, fault, hSpec, hOpen, -, rfl⟩⟩
      · rw [hSpec]
        rfl
      · rw [hSpec, Option.filter_some_neg (by simpa using hOpen)]
        rfl
      · rw [hSpec, Option.filter_some_pos (by simpa using hOpen)]
        rfl
      · rw [hSpec, Option.filter_some_pos (by simpa using hOpen)]
        rfl

end Token

/- A spec that holds fields as the text that it gives. -/
def resolvedSpec
    (lookup : Lookup)
    (spec : Text) :
    Text :=
  if '{' ∈ spec then
    (fillText lookup spec).toOption.getD spec
  else
    spec

/- A token with its spec filled in, if that holds fields. -/
def Token.resolved
    (lookup : Lookup) :
    Token → Token
  | literal text => literal text
  | field f =>
      field { f with spec := f.spec.map (resolvedSpec lookup) }

/- A template text with all specs filled in that hold fields. -/
def resolveSpecs
    (lookup : Lookup)
    (source : Text) :
    Text :=
  unparse ((scan source).tokens.map (Token.resolved lookup))

namespace Token

variable {lookup : Lookup}
variable {token : Token}

/- Any other token stays as it is. -/
theorem resolved_eq_self
    (hNone : token.nestedSpec? = none) :
    token.resolved lookup = token := by
  cases token with
  | literal text => rfl
  | field f =>
      have hSame : f.spec.map (resolvedSpec lookup) = f.spec := by
        cases hSpec : f.spec with
        | none => rfl
        | some spec =>
            have hPlain : '{' ∉ spec := by
              intro hOpen
              have hNested :=
                nestedSpec?_eq_some_iff.mpr ⟨hSpec, hOpen⟩
              rw [hNone] at hNested
              cases hNested
            rw [Option.map_some, resolvedSpec, if_neg hPlain]
      rw [resolved, hSame]

theorem resolved_eq
    {f : Field}
    {spec text : Text}
    (hSpec : (field f).nestedSpec? = some spec)
    (hText : fillText lookup spec = .ok text) :
    (field f).resolved lookup =
      field { f with spec := some text } := by
  rcases nestedSpec?_eq_some_iff.mp hSpec with ⟨hOwn, hOpen⟩
  rw [resolved, hOwn, Option.map_some, resolvedSpec,
    if_pos hOpen, hText]
  rfl

end Token

/-
  A token that is kept, or a field with a text without braces
  for its spec.
-/
inductive Resolution
    (lookup : Lookup) :
    Token → Token → Prop where
  | kept
      {token : Token}
      (hNone : token.nestedSpec? = none) :
      Resolution lookup token token
  | replaced
      {f : Field}
      {spec text : Text}
      (hSpec : (Token.field f).nestedSpec? = some spec)
      (hText : fillText lookup spec = .ok text)
      (hPlain : ∀ c ∈ text, isBrace c = false) :
      Resolution lookup (.field f)
        (.field { f with spec := some text })

theorem Token.resolution_resolved
    {lookup : Lookup}
    {token : Token}
    (hGives :
      ∀ spec ∈ token.nestedSpec?,
        ∃ text,
          fillText lookup spec = .ok text ∧
            ∀ c ∈ text, isBrace c = false) :
    Resolution lookup token (token.resolved lookup) := by
  cases hNested : token.nestedSpec? with
  | none =>
      rw [resolved_eq_self hNested]
      exact .kept hNested
  | some spec =>
      rcases hGives spec hNested with ⟨text, hText, hPlain⟩
      cases token with
      | literal own => cases hNested
      | field f =>
          rw [resolved_eq hNested hText]
          exact .replaced hNested hText hPlain

end LogLine

------------------------------------------------------------
-- Braces of Texts That Are Filled In
------------------------------------------------------------

namespace LogLine

variable {lookup : Lookup}

theorem not_mem_open_of_plain
    {text : Text}
    (hPlain : ∀ c ∈ text, isBrace c = false) :
    '{' ∉ text := by
  intro hMem
  exact absurd (hPlain _ hMem) (by decide)

/- A readable field opens one brace and closes it again. -/
theorem braceDepth_unparse_field
    {f : Field}
    (hReadable : f.Readable)
    (depth : Nat) :
    braceDepth depth (Token.field f).unparse = some depth := by
  have hBody := braceDepth_add hReadable.balanced (depth + 1)
  rw [Nat.zero_add] at hBody
  rw [Token.unparse, Field.write_eq_body, braceDepth,
    braceDepth_append, hBody]
  rfl

theorem braceDepth_unparse_of_fillTokens
    {tokens : List Token}
    (hReadable : ∀ token ∈ tokens, token.Readable)
    {text : Text}
    (hFill : fillTokens lookup tokens = .ok text)
    (hPlain : ∀ c ∈ text, isBrace c = false)
    (depth : Nat) :
    braceDepth depth (unparse tokens) = some depth := by
  induction tokens generalizing text with
  | nil => rfl
  | cons token rest ih =>
      rw [List.forall_mem_cons] at hReadable
      rw [fillTokens_cons_eq_ok_iff] at hFill
      rcases hFill with ⟨first, behind, hFirst, hBehind, rfl⟩
      rw [List.forall_mem_append] at hPlain
      have hToken :
          braceDepth depth token.unparse = some depth := by
        cases token with
        | field f => exact braceDepth_unparse_field hReadable.1 _
        | literal own =>
            cases hFirst
            rw [Token.unparse, escapeBraces_of_plain hPlain.1]
            exact braceDepth_of_plain hPlain.1 depth
      rw [unparse_cons, braceDepth_append, hToken]
      exact ih hReadable.2 hBehind hPlain.2

/-
  A template that is filled in without a brace has no doubled
  ones, and so it closes what it opens.
-/
theorem braceDepth_of_fillText
    {source text : Text}
    (hFill : fillText lookup source = .ok text)
    (hPlain : ∀ c ∈ text, isBrace c = false)
    (depth : Nat) :
    braceDepth depth source = some depth := by
  rw [fillText, bind_eq_ok_iff] at hFill
  rcases hFill with ⟨segments, hRead, hText⟩
  rw [mapError_eq_ok_iff] at hRead
  rcases tokenize_of_parseSegments hRead with
    ⟨tokens, hTokens, hPieces⟩
  rcases (tokenize_eq_ok_iff source tokens).mp hTokens with
    ⟨rfl, hCanonical, -⟩
  rw [renderSegments_eq_fillTokens hPieces] at hText
  exact
    braceDepth_unparse_of_fillTokens hCanonical.readable hText
      hPlain depth

/- The spec of a field stands at the end of its body. -/
theorem Field.body_withSpec
    (f : Field)
    (spec : Text) :
    Field.body { f with spec := some spec } =
      Field.body { f with spec := some [] } ++ spec := by
  rcases f with ⟨name, conversion, own, offset⟩
  cases conversion with
  | none => simp [body, writeTail]
  | some c => simp [body, writeTail]

/- A field stays readable under a spec with balanced braces. -/
theorem Field.Readable.withSpec
    {f : Field}
    (hReadable : f.Readable)
    {old new : Text}
    (hSpec : f.spec = some old)
    (hOld : ∀ depth, braceDepth depth old = some depth)
    (hNew : ∀ depth, braceDepth depth new = some depth) :
    Field.Readable { f with spec := some new } := by
  have hBody :
      f.body = Field.body { f with spec := some [] } ++ old := by
    rw [← f.body_withSpec old, ← hSpec]
  constructor
  case balanced =>
      have hBalanced := hReadable.balanced
      unfold BracesBalanced at hBalanced ⊢
      rw [hBody, braceDepth_append] at hBalanced
      rw [f.body_withSpec new, braceDepth_append]
      simp only [hOld, Option.bind_fun_some] at hBalanced
      simp only [hNew, Option.bind_fun_some]
      exact hBalanced
  case opening =>
      have hOpening := hReadable.opening
      have hSome : Field.body { f with spec := some [] } ≠ [] := by
        rcases f with ⟨name, conversion, own, offset⟩
        cases conversion <;> simp [Field.body, Field.writeTail]
      rw [hBody, List.head?_append_of_ne_nil _ hSome] at hOpening
      rw [f.body_withSpec new,
        List.head?_append_of_ne_nil _ hSome]
      exact hOpening
  case separators => exact hReadable.separators
  case closed =>
      intro _
      apply hReadable.closed
      exact Or.inr (by rw [hSpec]; rfl)

theorem Resolution.readable
    {token resolved : Token}
    (hResolution : Resolution lookup token resolved)
    (hReadable : token.Readable) :
    resolved.Readable := by
  cases hResolution with
  | kept hNone => exact hReadable
  | replaced hSpec hText hPlain =>
      have hOwn := (Token.nestedSpec?_eq_some_iff.mp hSpec).1
      exact
        Field.Readable.withSpec hReadable hOwn
          (braceDepth_of_fillText hText hPlain)
          (braceDepth_of_plain hPlain)

end LogLine

------------------------------------------------------------
-- Texts under Resolved Specs
------------------------------------------------------------

namespace LogLine

namespace Token

variable {lookup : Lookup}
variable {token : Token}

theorem exists_segment_of_fill
    {text : Text}
    (hFill : token.fill lookup = .ok text) :
    ∃ piece, token.segment = .ok piece := by
  rw [fill, bind_eq_ok_iff] at hFill
  rcases hFill with ⟨piece, hPiece, -⟩
  exact ⟨piece, (mapError_eq_ok_iff _ _ _).mp hPiece⟩

/- A spec that holds fields is filled in behind the value. -/
theorem fill_of_nestedSpec?
    {f : Field}
    {spec : Text}
    (hSpec : (field f).nestedSpec? = some spec) :
    (field f).fill lookup =
      (do
        let conversion ←
          f.conversion?.mapError RenderError.ofParseError
        let value ← lookup.valueFor f.name conversion
        let text ← fillText lookup spec
        liftFormat (do
          let parsed ← Spec.parse text
          parsed.apply value)) := by
  rw [nestedSpec?_eq_filter_effectiveSpec] at hSpec
  rcases Option.filter_eq_some_iff.mp hSpec with ⟨hOwn, hOpen⟩
  rw [fill, segment_field, Field.piece, hOwn, fillText]
  simp only [if_pos (of_decide_eq_true hOpen)]
  cases f.conversion? with
  | error fault => rfl
  | ok conversion =>
      cases parseSegments spec with
      | error fault => rfl
      | ok nested => rfl

/- Any other spec applies as it is, also if it is empty. -/
theorem fill_of_spec
    {f : Field}
    {text : Text}
    (hSpec : f.spec = some text)
    (hPlain : '{' ∉ text)
    {parsed : Spec}
    (hParse : Spec.parse text = .ok parsed) :
    (field f).fill lookup =
      (do
        let conversion ←
          f.conversion?.mapError RenderError.ofParseError
        let value ← lookup.valueFor f.name conversion
        liftFormat (parsed.apply value)) := by
  rw [fill, segment_field, Field.piece]
  cases f.conversion? with
  | error fault => rfl
  | ok conversion =>
      cases text with
      | nil =>
          have hEmpty : f.effectiveSpec = none := by
            rw [Field.effectiveSpec, hSpec]
            rfl
          have hBlank : parsed = .blank :=
            Except.ok.inj (hParse.symm.trans rfl)
          subst hBlank
          rw [hEmpty]
          simp only [Spec.apply_blank]
          rfl
      | cons c rest =>
          have hOwn : f.effectiveSpec = some (c :: rest) := by
            rw [Field.effectiveSpec, hSpec]
            rfl
          rw [hOwn]
          simp only [if_neg hPlain, hParse]
          rfl

/- A field with such a spec gives a text only if its spec does. -/
theorem exists_fillText_of_fill
    {spec line : Text}
    (hSpec : token.nestedSpec? = some spec)
    (hFill : token.fill lookup = .ok line) :
    ∃ text, fillText lookup spec = .ok text := by
  cases token with
  | literal own => cases hSpec
  | field f =>
      rw [fill_of_nestedSpec? hSpec] at hFill
      simp only [bind_eq_ok_iff] at hFill
      rcases hFill with ⟨-, -, -, -, text, hText, -⟩
      exact ⟨text, hText⟩

end Token

namespace Resolution

variable {lookup : Lookup}
variable {token resolved : Token}

theorem nestedSpec?_eq_none
    (hResolution : Resolution lookup token resolved) :
    resolved.nestedSpec? = none := by
  cases hResolution with
  | kept hNone => exact hNone
  | replaced hSpec hText hPlain =>
      have hOpen := not_mem_open_of_plain hPlain
      rw [Token.nestedSpec?,
        Option.filter_some_neg (by simpa using hOpen)]

theorem fill_eq_ok
    (hResolution : Resolution lookup token resolved)
    {line : Text}
    (hFill : token.fill lookup = .ok line) :
    resolved.fill lookup = .ok line := by
  cases hResolution with
  | kept hNone => exact hFill
  | replaced hSpec hText hPlain =>
      rw [Token.fill_of_nestedSpec? hSpec, hText] at hFill
      simp only [bind_eq_ok_iff] at hFill
      rcases hFill with
        ⟨conversion, hConversion, value, hValue, own, hOwn,
          hLift⟩
      cases hOwn
      have hLine := (mapError_eq_ok_iff _ _ _).mp hLift
      rw [bind_eq_ok_iff] at hLine
      rcases hLine with ⟨parsed, hParse, hApply⟩
      rw [Token.fill_of_spec rfl (not_mem_open_of_plain hPlain)
        hParse]
      simp only [bind_eq_ok_iff]
      refine ⟨conversion, hConversion, value, hValue, ?_⟩
      exact (mapError_eq_ok_iff _ _ _).mpr hApply

end Resolution

end LogLine

------------------------------------------------------------
-- Dynamic and Static Specs
------------------------------------------------------------

namespace LogLine

theorem filterMap_nestedSpec?_of_readSegments
    {tokens : List Token}
    {segments : List Segment}
    (hRead : readSegments tokens = .ok segments) :
    segments.filterMap Segment.nestedSpec? =
      tokens.filterMap Token.nestedSpec? :=
  filterMap_of_readSegments (fun _ => rfl)
    (fun _ _ hPiece => Token.nestedSpec?_of_segment hPiece) hRead

/- The specs of a template that hold fields, by its tokens. -/
theorem Template.nestedSpecs_eq
    {source : Text}
    {template : Template}
    (hParse : parse source = .ok template) :
    template.nestedSpecs =
      (scan source).tokens.filterMap Token.nestedSpec? := by
  rcases (map_eq_ok_iff _ _ _).mp hParse with
    ⟨segments, hSegments, rfl⟩
  rcases tokenize_of_parseSegments hSegments with
    ⟨tokens, hTokens, hPieces⟩
  rw [(tokenize_eq_ok_iff_scan source tokens).mp hTokens]
  exact filterMap_nestedSpec?_of_readSegments hPieces

/- The tokens of a template, resolved one by one. -/
theorem exists_parse_resolveSpecs
    {source : Text}
    {tokens : List Token}
    (hTokens : tokenize source = .ok tokens)
    {lookup : Lookup}
    {line : Text}
    (hLine : fillTokens lookup tokens = .ok line)
    (hTokenwise :
      ∀ token ∈ tokens,
        Resolution lookup token (token.resolved lookup)) :
    ∃ resolved,
      Template.parse (resolveSpecs lookup source) =
          .ok resolved ∧
        resolved.nestedSpecs = [] ∧
        resolved.render lookup = .ok line := by
  have hCanonical :=
    ((tokenize_eq_ok_iff source tokens).mp hTokens).2.1
  have hReadable :
      ∀ token ∈ tokens.map (Token.resolved lookup),
        token.Readable :=
    List.forall_mem_map.mpr fun token hMem =>
      (hTokenwise token hMem).readable
        (hCanonical.readable token hMem)
  have hFill :
      fillTokens lookup (tokens.map (Token.resolved lookup)) =
        .ok line :=
    fillTokens_map
      (fun token hMem _ hText =>
        (hTokenwise token hMem).fill_eq_ok hText)
      hLine
  have hPieces :
      ∀ token ∈ tokens.map (Token.resolved lookup),
        ∃ piece, token.segment = .ok piece := by
    intro token hMem
    rcases exists_fill_of_mem hFill token hMem with
      ⟨text, hText⟩
    exact Token.exists_segment_of_fill hText
  rcases exists_readSegments hPieces with ⟨segments, hRead⟩
  have hSource :
      resolveSpecs lookup source =
        unparse (tokens.map (Token.resolved lookup)) := by
    rw [resolveSpecs,
      (tokenize_eq_ok_iff_scan source tokens).mp hTokens]
  refine ⟨⟨resolveSpecs lookup source, segments⟩, ?_, ?_, ?_⟩
  · rw [hSource, Template.parse_unparse hReadable, hRead]
    rfl
  · rw [Template.nestedSpecs,
      filterMap_nestedSpec?_of_readSegments hRead,
      List.filterMap_eq_nil_iff]
    exact
      List.forall_mem_map.mpr fun token hMem =>
        (hTokenwise token hMem).nestedSpec?_eq_none
  · exact (renderSegments_eq_fillTokens hRead lookup).trans hFill

/-
  Where the specs that hold fields give texts without braces,
  these texts can stand in their places: the template is
  accepted, and gives the same line.
-/
theorem resolved_specs_give_same_line
    {source : Text}
    {template : Template}
    (hParse : Template.parse source = .ok template)
    {lookup : Lookup}
    {line : Text}
    (hLine : template.render lookup = .ok line)
    (hPlain :
      ∀ spec ∈ template.nestedSpecs, ∀ text,
        fillText lookup spec = .ok text →
          ∀ c ∈ text, isBrace c = false) :
    (∀ spec ∈ template.nestedSpecs,
      ∃ text, fillText lookup spec = .ok text) ∧
    ∃ resolved,
      Template.parse (resolveSpecs lookup source) =
          .ok resolved ∧
        resolved.nestedSpecs = [] ∧
        resolved.render lookup = .ok line := by
  have hSpecs := Template.nestedSpecs_eq hParse
  rcases (map_eq_ok_iff _ _ _).mp hParse with
    ⟨segments, hSegments, rfl⟩
  rcases tokenize_of_parseSegments hSegments with
    ⟨tokens, hTokens, hPieces⟩
  have hFill : fillTokens lookup tokens = .ok line := by
    rw [← renderSegments_eq_fillTokens hPieces]
    exact hLine
  rw [(tokenize_eq_ok_iff_scan source tokens).mp hTokens]
    at hSpecs
  rw [hSpecs] at hPlain ⊢
  have hGives :
      ∀ token ∈ tokens, ∀ spec ∈ token.nestedSpec?,
        ∃ text, fillText lookup spec = .ok text := by
    intro token hMem spec hSpec
    rcases exists_fill_of_mem hFill token hMem with
      ⟨text, hText⟩
    exact Token.exists_fillText_of_fill hSpec hText
  refine ⟨?_, exists_parse_resolveSpecs hTokens hFill ?_⟩
  · intro spec hMem
    rcases List.mem_filterMap.mp hMem with
      ⟨token, hToken, hSpec⟩
    exact hGives token hToken spec hSpec
  · intro token hToken
    apply Token.resolution_resolved
    intro spec hSpec
    rcases hGives token hToken spec hSpec with ⟨text, hText⟩
    have hMem := List.mem_filterMap.mpr ⟨token, hToken, hSpec⟩
    exact ⟨text, hText, hPlain spec hMem text hText⟩

/- A field with a conversion and a width between escaped braces. -/
def bracedWidthSource : Text :=
  "\x7b\x7b\x7bmessage!s:>\x7bwidth\x7d\x7d\x7d\x7d".toList

theorem resolved_specs_give_same_line_of_width :
    ∃ template resolved,
      Template.parse bracedWidthSource = .ok template ∧
      template.nestedSpecs = [">\x7bwidth\x7d".toList] ∧
      resolveSpecs namedLookup bracedWidthSource =
        "\x7b\x7b\x7bmessage!s:>8\x7d\x7d\x7d".toList ∧
      Template.parse
          (resolveSpecs namedLookup bracedWidthSource) =
        .ok resolved ∧
      template.render namedLookup =
        .ok "\x7b  \x7bname\x7d\x7d".toList ∧
      resolved.render namedLookup =
        template.render namedLookup := by
  have hRun :
      (Template.parse bracedWidthSource).toOption.map
          (fun template =>
            (template.nestedSpecs,
              template.render namedLookup)) =
        some
          ([">\x7bwidth\x7d".toList],
            .ok "\x7b  \x7bname\x7d\x7d".toList) := by
    decide +kernel
  simp only [Option.map_eq_some_iff, toOption_eq_some_iff,
    Prod.mk.injEq] at hRun
  rcases hRun with ⟨template, hParse, hSpecs, hLine⟩
  have hSpec :
      fillText namedLookup ">\x7bwidth\x7d".toList =
        .ok ">8".toList := by
    decide +kernel
  have hPlain :
      ∀ spec ∈ template.nestedSpecs, ∀ text,
        fillText namedLookup spec = .ok text →
          ∀ c ∈ text, isBrace c = false := by
    rw [hSpecs, List.forall_mem_singleton]
    intro text hText
    rw [hSpec] at hText
    cases hText
    decide
  rcases (resolved_specs_give_same_line hParse hLine hPlain).2
    with ⟨resolved, hResolved, -, hSame⟩
  refine
    ⟨template, resolved, hParse, hSpecs, ?_, hResolved, hLine,
      hSame.trans hLine.symm⟩
  decide +kernel

end LogLine
