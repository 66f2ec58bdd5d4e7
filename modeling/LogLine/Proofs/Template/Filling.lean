import LogLine.Proofs.Outcome
import LogLine.Proofs.Template.Segments

/-
  Filling in templates piece by piece: what a text depends on,
  and which names a template can hold.

  Key definitions include:
    * `LogLine.Token.fill`
    * `LogLine.fillTokens`

  Key theorems include:
    * `LogLine.renderSegments_eq_fillTokens`
    * `LogLine.renderSegments_congr`
    * `LogLine.missingField_of_renderSegments`
    * `LogLine.infix_of_mem_namesOf`
-/

------------------------------------------------------------
-- One Piece after the Other
------------------------------------------------------------

namespace LogLine

/- It does not matter whether literals that meet are joined. -/
theorem renderSegments_segment_cons
    (lookup : Lookup)
    (segment : Segment)
    (rest : List Segment) :
    renderSegments lookup (segment.cons rest) =
      renderSegments lookup (segment :: rest) := by
  unfold Segment.cons
  split
  case h_2 => rfl
  case h_1 first second rest =>
      simp only [renderSegments, Segment.fill]
      cases renderSegments lookup rest with
      | error fault => rfl
      | ok behind => simp [bind, Except.bind, pure, Except.pure]

theorem namesOf_segment_cons
    (segment : Segment)
    (rest : List Segment) :
    namesOf (segment.cons rest) =
      segment.names ++ namesOf rest := by
  unfold Segment.cons
  split
  case h_2 => rfl
  case h_1 first second rest => rfl

/- What is read off pieces, where nothing is off a literal. -/
theorem filterMap_segment_cons
    {α : Type}
    {ofPiece : Segment → Option α}
    (hLiteral : ∀ text, ofPiece (.literal text) = none)
    (segment : Segment)
    (rest : List Segment) :
    (segment.cons rest).filterMap ofPiece =
      (segment :: rest).filterMap ofPiece := by
  unfold Segment.cons
  split
  case h_2 => rfl
  case h_1 first second rest =>
      simp only [List.filterMap_cons, hLiteral]

theorem Lookup.valueFor_congr
    {first second : Lookup}
    {name : Text}
    (hSame : first name = second name)
    (conversion : Option Conversion) :
    first.valueFor name conversion =
      second.valueFor name conversion := by
  unfold valueFor
  rw [hSame]

mutual

/- Only the values of names that occur have a part in a text. -/
theorem Segment.fill_congr
    {first second : Lookup}
    (segment : Segment)
    (hNames :
      ∀ name ∈ segment.names, first name = second name) :
    segment.fill first = segment.fill second := by
  cases segment with
  | literal text => rfl
  | bare name conversion =>
      have hName := hNames name List.mem_cons_self
      rw [Segment.fill, Segment.fill, Lookup.valueFor_congr hName]
  | formatted name conversion spec =>
      have hName := hNames name List.mem_cons_self
      rw [Segment.fill, Segment.fill, Lookup.valueFor_congr hName]
  | dynamic name conversion source nested =>
      rw [Segment.names, List.forall_mem_cons] at hNames
      rw [Segment.fill, Segment.fill, Lookup.valueFor_congr hNames.1,
        renderSegments_congr nested hNames.2]
  | faulty name conversion source fault =>
      have hName := hNames name List.mem_cons_self
      rw [Segment.fill, Segment.fill, Lookup.valueFor_congr hName]

theorem renderSegments_congr
    {first second : Lookup}
    (segments : List Segment)
    (hNames :
      ∀ name ∈ namesOf segments, first name = second name) :
    renderSegments first segments =
      renderSegments second segments := by
  cases segments with
  | nil => rfl
  | cons segment rest =>
      rw [namesOf, List.forall_mem_append] at hNames
      rw [renderSegments, renderSegments,
        Segment.fill_congr segment hNames.1,
        renderSegments_congr rest hNames.2]

end

end LogLine

------------------------------------------------------------
-- Where a Name Is Missed
------------------------------------------------------------

namespace LogLine

theorem Lookup.valueFor_eq_error
    {lookup : Lookup}
    {name : Text}
    {conversion : Option Conversion}
    {fault : RenderError}
    (hFault : lookup.valueFor name conversion = .error fault) :
    lookup name = none ∧ fault = .missingField name := by
  unfold valueFor at hFault
  cases hValue : lookup name with
  | none =>
      rw [hValue] at hFault
      exact ⟨rfl, (Except.error.inj hFault).symm⟩
  | some value =>
      rw [hValue] at hFault
      cases conversion <;> cases hFault

theorem liftFormat_ne_missingField
    (result : Except FormatError Text)
    (name : Text) :
    liftFormat result ≠ .error (.missingField name) := by
  intro hFault
  cases result <;> cases hFault

mutual

/- A field of a piece is missed, or one of its spec. -/
theorem Segment.missingField_of_fill
    {lookup : Lookup}
    {name : Text}
    (segment : Segment)
    (hMissing :
      segment.fill lookup = .error (.missingField name)) :
    name ∈ segment.names ∧ lookup name = none := by
  have hOwn :
      ∀ {own : Text} {conversion : Option Conversion},
        lookup.valueFor own conversion =
            .error (.missingField name) →
          name = own ∧ lookup name = none := by
    intro own conversion hFault
    rcases Lookup.valueFor_eq_error hFault with ⟨hNone, hSame⟩
    cases hSame
    exact ⟨rfl, hNone⟩
  cases segment with
  | literal text => cases hMissing
  | bare own conversion =>
      rw [Segment.fill, bind_eq_error_iff] at hMissing
      rcases hMissing with hValue | ⟨value, -, hDone⟩
      · rcases hOwn hValue with ⟨hSame, hNone⟩
        exact ⟨List.mem_singleton.mpr hSame, hNone⟩
      · cases hDone
  | formatted own conversion spec =>
      rw [Segment.fill, bind_eq_error_iff] at hMissing
      rcases hMissing with hValue | ⟨value, -, hText⟩
      · rcases hOwn hValue with ⟨hSame, hNone⟩
        exact ⟨List.mem_singleton.mpr hSame, hNone⟩
      · exact absurd hText (liftFormat_ne_missingField _ name)
  | dynamic own conversion source nested =>
      simp only [Segment.fill, bind_eq_error_iff] at hMissing
      rcases hMissing with
        hValue | ⟨value, -, hSpec | ⟨spec, -, hText⟩⟩
      · rcases hOwn hValue with ⟨hSame, hNone⟩
        exact ⟨List.mem_cons.mpr (Or.inl hSame), hNone⟩
      · rcases missingField_of_renderSegments nested hSpec with
          ⟨hMem, hNone⟩
        exact ⟨List.mem_cons_of_mem own hMem, hNone⟩
      · exact absurd hText (liftFormat_ne_missingField _ name)
  | faulty own conversion source fault =>
      rw [Segment.fill, bind_eq_error_iff] at hMissing
      rcases hMissing with hValue | ⟨value, -, hThrow⟩
      · rcases hOwn hValue with ⟨hSame, hNone⟩
        exact ⟨List.mem_singleton.mpr hSame, hNone⟩
      · cases fault <;> cases hThrow

theorem missingField_of_renderSegments
    {lookup : Lookup}
    {name : Text}
    (segments : List Segment)
    (hMissing :
      renderSegments lookup segments =
        .error (.missingField name)) :
    name ∈ namesOf segments ∧ lookup name = none := by
  cases segments with
  | nil => cases hMissing
  | cons segment rest =>
      simp only [renderSegments, bind_eq_error_iff] at hMissing
      rw [namesOf, List.mem_append]
      rcases hMissing with
        hFirst | ⟨text, -, hRest | ⟨behind, -, hDone⟩⟩
      · rcases segment.missingField_of_fill hFirst with
          ⟨hMem, hNone⟩
        exact ⟨Or.inl hMem, hNone⟩
      · rcases missingField_of_renderSegments rest hRest with
          ⟨hMem, hNone⟩
        exact ⟨Or.inr hMem, hNone⟩
      · cases hDone

end

end LogLine

------------------------------------------------------------
-- One Token after the Other
------------------------------------------------------------

namespace LogLine

/- The text of one token. -/
def Token.fill
    (lookup : Lookup)
    (token : Token) :
    Except RenderError Text := do
  let piece ← token.segment.mapError RenderError.ofParseError
  piece.fill lookup

/- The texts of tokens from left to right. -/
def fillTokens
    (lookup : Lookup) :
    List Token → Except RenderError Text
  | [] => .ok []
  | token :: rest => do
      let text ← token.fill lookup
      let behind ← fillTokens lookup rest
      return text ++ behind

theorem Token.fill_of_segment
    {token : Token}
    {piece : Segment}
    (hPiece : token.segment = .ok piece)
    (lookup : Lookup) :
    token.fill lookup = piece.fill lookup := by
  rw [fill, hPiece]
  rfl

@[simp]
theorem Token.fill_placed
    (lookup : Lookup)
    (token : Token)
    (offset : Nat) :
    (token.placed offset).fill lookup = token.fill lookup := by
  rw [fill, fill, segment_placed]

/- A bare field gives what its name stands for, as displayed. -/
theorem Token.fill_eq_display
    {lookup : Lookup}
    {f : Field}
    (hConversion : f.conversion = none)
    (hSpec : f.effectiveSpec = none)
    {value : Value}
    (hValue : lookup f.name = some value) :
    (field f).fill lookup = .ok value.display := by
  have hPiece :
      (field f).segment = .ok (.bare f.name none) := by
    rw [segment_field, Field.piece, Field.conversion?,
      hConversion, hSpec]
    rfl
  rw [fill_of_segment hPiece, Segment.fill, Lookup.valueFor,
    hValue]
  rfl

theorem Token.fill_of_bare
    {lookup : Lookup}
    {f : Field}
    (hConversion : f.conversion = none)
    (hSpec : f.effectiveSpec = none)
    {text : Text}
    (hValue : lookup f.name = some (.str text)) :
    (field f).fill lookup = .ok text :=
  fill_eq_display hConversion hSpec hValue

/- A template can be filled in by its tokens. -/
theorem renderSegments_eq_fillTokens
    {tokens : List Token}
    {segments : List Segment}
    (hRead : readSegments tokens = .ok segments)
    (lookup : Lookup) :
    renderSegments lookup segments =
      fillTokens lookup tokens := by
  induction tokens generalizing segments with
  | nil =>
      cases hRead
      rfl
  | cons token rest ih =>
      simp only [readSegments, bind_eq_ok_iff] at hRead
      rcases hRead with ⟨piece, hPiece, behind, hRest, hCons⟩
      cases hCons
      rw [renderSegments_segment_cons, renderSegments,
        fillTokens, ih hRest, Token.fill_of_segment hPiece]

theorem fillTokens_cons_eq_ok_iff
    (lookup : Lookup)
    (token : Token)
    (rest : List Token)
    (line : Text) :
    fillTokens lookup (token :: rest) = .ok line ↔
      ∃ text behind,
        token.fill lookup = .ok text ∧
        fillTokens lookup rest = .ok behind ∧
        text ++ behind = line := by
  simp only [fillTokens, bind_eq_ok_iff, pure, Except.pure,
    Except.ok.injEq]
  constructor
  · rintro ⟨text, hText, behind, hBehind, hLine⟩
    exact ⟨text, behind, hText, hBehind, hLine⟩
  · rintro ⟨text, behind, hText, hBehind, hLine⟩
    exact ⟨text, hText, behind, hBehind, hLine⟩

theorem fillTokens_append_eq_ok_iff
    (lookup : Lookup)
    (first second : List Token)
    (line : Text) :
    fillTokens lookup (first ++ second) = .ok line ↔
      ∃ text behind,
        fillTokens lookup first = .ok text ∧
        fillTokens lookup second = .ok behind ∧
        text ++ behind = line := by
  induction first generalizing line with
  | nil => simp [fillTokens]
  | cons token rest ih =>
      simp only [List.cons_append, fillTokens_cons_eq_ok_iff, ih]
      constructor
      · rintro ⟨text, -, hText, ⟨middle, behind, hMiddle,
          hBehind, rfl⟩, rfl⟩
        exact
          ⟨text ++ middle, behind,
            ⟨text, middle, hText, hMiddle, rfl⟩, hBehind,
            List.append_assoc text middle behind⟩
      · rintro ⟨-, behind, ⟨text, middle, hText, hMiddle, rfl⟩,
          hBehind, rfl⟩
        exact
          ⟨text, middle ++ behind, hText,
            ⟨middle, behind, hMiddle, hBehind, rfl⟩,
            (List.append_assoc text middle behind).symm⟩

/- If all together have a text, every token has one. -/
theorem exists_fill_of_mem
    {lookup : Lookup}
    {tokens : List Token}
    {line : Text}
    (hFill : fillTokens lookup tokens = .ok line) :
    ∀ token ∈ tokens, ∃ text, token.fill lookup = .ok text := by
  induction tokens generalizing line with
  | nil => exact List.forall_mem_nil _
  | cons token rest ih =>
      rcases
        (fillTokens_cons_eq_ok_iff lookup token rest line).mp
          hFill with
        ⟨text, behind, hText, hBehind, -⟩
      rw [List.forall_mem_cons]
      exact ⟨⟨text, hText⟩, ih hBehind⟩

/- Tokens can be changed as long as each one keeps its text. -/
theorem fillTokens_map
    {lookup : Lookup}
    {change : Token → Token}
    {tokens : List Token}
    (hSame :
      ∀ token ∈ tokens, ∀ text,
        token.fill lookup = .ok text →
          (change token).fill lookup = .ok text)
    {line : Text}
    (hFill : fillTokens lookup tokens = .ok line) :
    fillTokens lookup (tokens.map change) = .ok line := by
  induction tokens generalizing line with
  | nil => exact hFill
  | cons token rest ih =>
      rw [List.forall_mem_cons] at hSame
      rw [fillTokens_cons_eq_ok_iff] at hFill
      rcases hFill with ⟨text, behind, hText, hBehind, rfl⟩
      rw [List.map_cons, fillTokens_cons_eq_ok_iff]
      exact
        ⟨text, behind, hSame.1 text hText, ih hSame.2 hBehind,
          rfl⟩

/- If every token has a text, all together have one. -/
theorem exists_fillTokens
    {lookup : Lookup}
    {tokens : List Token}
    (hFill :
      ∀ token ∈ tokens, ∃ text, token.fill lookup = .ok text) :
    ∃ text, fillTokens lookup tokens = .ok text := by
  induction tokens with
  | nil => exact ⟨[], rfl⟩
  | cons token rest ih =>
      rw [List.forall_mem_cons] at hFill
      rcases hFill.1 with ⟨text, hText⟩
      rcases ih hFill.2 with ⟨behind, hBehind⟩
      refine ⟨text ++ behind, ?_⟩
      rw [fillTokens, hText, hBehind]
      rfl

end LogLine

------------------------------------------------------------
-- Names of a Template
------------------------------------------------------------

namespace LogLine

theorem tokenize_of_parseSegments
    {source : Text}
    {segments : List Segment}
    (hParse : parseSegments source = .ok segments) :
    ∃ tokens,
      tokenize source = .ok tokens ∧
        readSegments tokens = .ok segments := by
  have hRead : tokenize source = .ok (scan source).tokens := by
    rw [parseSegments, bind_eq_ok_iff] at hParse
    rcases hParse with ⟨pieces, -, hEnd⟩
    unfold tokenize
    cases hViolation : (scan source).violation with
    | none => rfl
    | some violation =>
        rw [hViolation] at hEnd
        cases hEnd
  refine ⟨_, hRead, ?_⟩
  rw [← parseSegments_eq_readSegments hRead]
  exact hParse

/- The names of a field are its own and those in its spec. -/
theorem Field.mem_names_piece
    {f : Field}
    {piece : Segment}
    (hPiece : f.piece = .ok piece)
    {name : Text}
    (hName : name ∈ piece.names) :
    name = f.name ∨
    ∃ spec nested,
      f.effectiveSpec = some spec ∧
      '{' ∈ spec ∧
      parseSegments spec = .ok nested ∧
      name ∈ namesOf nested := by
  rcases Field.piece_eq_ok hPiece with
    ⟨conversion, ⟨-, rfl⟩ | ⟨spec, parsed, -, -, -, rfl⟩ |
      ⟨spec, nested, hSpec, hOpen, hNested, rfl⟩ |
      ⟨spec, fault, -, -, -, rfl⟩⟩
  · exact Or.inl (List.mem_singleton.mp hName)
  · exact Or.inl (List.mem_singleton.mp hName)
  · rcases List.mem_cons.mp hName with hOwn | hInside
    · exact Or.inl hOwn
    · exact Or.inr ⟨spec, nested, hSpec, hOpen, hNested, hInside⟩
  · exact Or.inl (List.mem_singleton.mp hName)

theorem Token.mem_names_segment
    {token : Token}
    {piece : Segment}
    (hPiece : token.segment = .ok piece)
    {name : Text}
    (hName : name ∈ piece.names) :
    ∃ f, token = field f ∧ f.piece = .ok piece := by
  cases token with
  | literal text =>
      cases hPiece
      cases hName
  | field f => exact ⟨f, rfl, by rw [← segment_field, hPiece]⟩

/- The name of a token that is a field. -/
def Token.name? : Token → Option Text
  | literal _ => none
  | field f => some f.name

theorem Token.name?_of_segment
    {token : Token}
    {piece : Segment}
    (hPiece : token.segment = .ok piece) :
    piece.name? = token.name? := by
  cases token with
  | literal text =>
      cases hPiece
      rfl
  | field f =>
      rw [segment_field] at hPiece
      rcases Field.piece_eq_ok hPiece with
        ⟨conversion, ⟨-, rfl⟩ | ⟨spec, parsed, -, -, -, rfl⟩ |
          ⟨spec, nested, -, -, -, rfl⟩ |
          ⟨spec, fault, -, -, -, rfl⟩⟩
      · rfl
      · rfl
      · rfl
      · rfl

/- What is read off pieces can be read off their tokens. -/
theorem filterMap_of_readSegments
    {α : Type}
    {ofPiece : Segment → Option α}
    {ofToken : Token → Option α}
    (hLiteral : ∀ text, ofPiece (.literal text) = none)
    (hSame :
      ∀ token piece,
        token.segment = .ok piece →
          ofPiece piece = ofToken token)
    {tokens : List Token}
    {segments : List Segment}
    (hRead : readSegments tokens = .ok segments) :
    segments.filterMap ofPiece = tokens.filterMap ofToken := by
  induction tokens generalizing segments with
  | nil =>
      cases hRead
      rfl
  | cons token tokens ih =>
      simp only [readSegments, bind_eq_ok_iff] at hRead
      rcases hRead with ⟨piece, hPiece, behind, hBehind, hCons⟩
      cases hCons
      rw [filterMap_segment_cons hLiteral, List.filterMap_cons,
        List.filterMap_cons, ih hBehind,
        hSame token piece hPiece]

/- The fields of a template have the names of its tokens. -/
theorem filterMap_name?_of_readSegments
    {tokens : List Token}
    {segments : List Segment}
    (hRead : readSegments tokens = .ok segments) :
    segments.filterMap Segment.name? =
      tokens.filterMap Token.name? :=
  filterMap_of_readSegments (fun _ => rfl)
    (fun _ _ hPiece => Token.name?_of_segment hPiece) hRead

/- Every name comes from a token. -/
theorem exists_of_mem_namesOf
    {tokens : List Token}
    {segments : List Segment}
    (hRead : readSegments tokens = .ok segments)
    {name : Text}
    (hName : name ∈ namesOf segments) :
    ∃ f piece,
      Token.field f ∈ tokens ∧
      f.piece = .ok piece ∧
      name ∈ piece.names := by
  induction tokens generalizing segments with
  | nil =>
      cases hRead
      simp [namesOf] at hName
  | cons token rest ih =>
      simp only [readSegments, bind_eq_ok_iff] at hRead
      rcases hRead with ⟨piece, hPiece, behind, hRest, hCons⟩
      cases hCons
      rw [namesOf_segment_cons, List.mem_append] at hName
      rcases hName with hFirst | hLater
      · rcases Token.mem_names_segment hPiece hFirst with
          ⟨f, rfl, hField⟩
        exact ⟨f, piece, List.mem_cons_self, hField, hFirst⟩
      · rcases ih hRest hLater with ⟨f, other, hMem, hField⟩
        exact
          ⟨f, other, List.mem_cons_of_mem token hMem, hField⟩

theorem unparse_infix_of_mem
    {tokens : List Token}
    {token : Token}
    (hMem : token ∈ tokens) :
    token.unparse <:+: unparse tokens := by
  rcases List.append_of_mem hMem with ⟨before, after, rfl⟩
  rw [unparse_append, unparse_cons]
  exact ⟨unparse before, unparse after, by simp⟩

theorem name_infix_unparse
    (f : Field) :
    ('{' :: f.name) <:+: (Token.field f).unparse := by
  refine
    ⟨[], Field.writeTail f.conversion f.spec ++ ['}'], ?_⟩
  simp [Token.unparse, Field.write]

theorem spec_infix_unparse
    {f : Field}
    {spec : Text}
    (hSpec : f.spec = some spec) :
    spec <:+: (Token.field f).unparse := by
  rcases f with ⟨name, conversion, own, offset⟩
  have hOwn : own = some spec := hSpec
  subst hOwn
  cases conversion with
  | none =>
      refine ⟨'{' :: (name ++ [':']), ['}'], ?_⟩
      simp [Token.unparse, Field.write, Field.writeTail]
  | some c =>
      refine ⟨'{' :: (name ++ ['!', c, ':']), ['}'], ?_⟩
      simp [Token.unparse, Field.write, Field.writeTail]

/- Every name stands behind a brace, however deep in specs. -/
theorem infix_of_mem_namesOf
    {source : Text}
    {segments : List Segment}
    (hParse : parseSegments source = .ok segments)
    {name : Text}
    (hName : name ∈ namesOf segments) :
    ('{' :: name) <:+: source := by
  rcases tokenize_of_parseSegments hParse with
    ⟨tokens, hRead, hPieces⟩
  rcases exists_of_mem_namesOf hPieces hName with
    ⟨f, piece, hMem, hPiece, hInside⟩
  have hScan := (tokenize_eq_ok_iff_scan source tokens).mp hRead
  have hSource := ((tokenize_eq_ok_iff source tokens).mp hRead).1
  have hField := unparse_infix_of_mem hMem
  rw [← hSource] at hField
  rcases Field.mem_names_piece hPiece hInside with
    rfl | ⟨spec, nested, hSpec, -, hNested, hDeep⟩
  · exact (name_infix_unparse f).trans hField
  · have hOwn := Field.spec_of_effectiveSpec hSpec
    have hShorter : spec.length < source.length := by
      refine spec_length_lt ?_ hOwn
      rw [hScan]
      exact hMem
    exact
      (infix_of_mem_namesOf hNested hDeep).trans
        ((spec_infix_unparse hOwn).trans hField)
termination_by source.length

end LogLine
