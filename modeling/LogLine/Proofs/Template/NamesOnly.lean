import LogLine.Text.Dict
import LogLine.Proofs.Template.Filling

/-
  What a template reads: the values of its own names and of
  those in its specs.  Values are never read as templates, so
  a spec that is read again each time it is filled in gives
  what it gave when the template was read.

  Key definitions include:
    * `LogLine.Template.nestedSpecs`
    * `LogLine.fillText`
    * `LogLine.fillWithin`

  Key theorems include:
    * `LogLine.Template.mem_names_iff`
    * `LogLine.fillWithin_eq_fillText`
    * `LogLine.render_reads_names_only`
-/

------------------------------------------------------------
-- Specs That Hold Fields
------------------------------------------------------------

namespace LogLine

/- The spec of a piece, if it holds fields. -/
def Segment.nestedSpec? : Segment → Option Text
  | literal _ => none
  | bare _ _ => none
  | formatted _ _ _ => none
  | dynamic _ _ source _ => some source
  | faulty _ _ source _ => some source

/- The specs that hold fields, in order of appearance. -/
def Template.nestedSpecs
    (template : Template) :
    List Text :=
  template.segments.filterMap Segment.nestedSpec?

/-
  A piece of a text with fewer than `bound` characters: what
  it keeps of its spec is what the spec gives when it is read.
-/
def Segment.ReadBelow
    (bound : Nat) :
    Segment → Prop
  | dynamic _ _ source nested =>
      source.length < bound ∧ parseSegments source = .ok nested
  | faulty _ _ source fault =>
      source.length < bound ∧ parseSegments source = .error fault
  | _ => True

theorem Segment.forall_readBelow_cons
    {bound : Nat}
    {piece : Segment}
    {segments : List Segment}
    (hPiece : piece.ReadBelow bound)
    (hSegments :
      ∀ segment ∈ segments, segment.ReadBelow bound) :
    ∀ segment ∈ piece.cons segments,
      segment.ReadBelow bound := by
  unfold Segment.cons
  split
  case h_2 =>
      exact List.forall_mem_cons.mpr ⟨hPiece, hSegments⟩
  case h_1 first second rest =>
      rw [List.forall_mem_cons] at hSegments ⊢
      exact ⟨trivial, hSegments.2⟩

theorem Field.readBelow_piece
    {bound : Nat}
    {f : Field}
    {piece : Segment}
    (hSpec :
      ∀ spec, f.spec = some spec → spec.length < bound)
    (hPiece : f.piece = .ok piece) :
    piece.ReadBelow bound := by
  rcases Field.piece_eq_ok hPiece with
    ⟨conversion, ⟨-, rfl⟩ | ⟨spec, parsed, -, -, -, rfl⟩ |
      ⟨spec, nested, hOwn, -, hNested, rfl⟩ |
      ⟨spec, fault, hOwn, -, hFault, rfl⟩⟩
  · exact trivial
  · exact trivial
  · exact ⟨hSpec spec (spec_of_effectiveSpec hOwn), hNested⟩
  · exact ⟨hSpec spec (spec_of_effectiveSpec hOwn), hFault⟩

theorem readBelow_of_readSegments
    {bound : Nat}
    {tokens : List Token}
    {segments : List Segment}
    (hSpecs :
      ∀ f spec, Token.field f ∈ tokens →
        f.spec = some spec → spec.length < bound)
    (hRead : readSegments tokens = .ok segments) :
    ∀ segment ∈ segments, segment.ReadBelow bound := by
  induction tokens generalizing segments with
  | nil =>
      cases hRead
      exact List.forall_mem_nil _
  | cons token rest ih =>
      simp only [readSegments, bind_eq_ok_iff] at hRead
      rcases hRead with ⟨piece, hPiece, behind, hRest, hCons⟩
      cases hCons
      have hBehind :=
        ih
          (fun f spec hMem =>
            hSpecs f spec (List.mem_cons_of_mem token hMem))
          hRest
      refine Segment.forall_readBelow_cons ?_ hBehind
      cases token with
      | literal text =>
          cases hPiece
          exact trivial
      | field f =>
          rw [Token.segment_field] at hPiece
          refine Field.readBelow_piece ?_ hPiece
          exact fun spec => hSpecs f spec List.mem_cons_self

/- The specs in a template are shorter than its text. -/
theorem readBelow_of_parseSegments
    {source : Text}
    {segments : List Segment}
    (hParse : parseSegments source = .ok segments) :
    ∀ segment ∈ segments, segment.ReadBelow source.length := by
  rcases tokenize_of_parseSegments hParse with
    ⟨tokens, hRead, hPieces⟩
  have hScan := (tokenize_eq_ok_iff_scan source tokens).mp hRead
  refine readBelow_of_readSegments ?_ hPieces
  intro f spec hMem hSpec
  refine spec_length_lt ?_ hSpec
  rw [hScan]
  exact hMem

end LogLine

------------------------------------------------------------
-- Names of Specs
------------------------------------------------------------

namespace LogLine

/- A piece names its field and what its spec names as a template. -/
theorem Segment.mem_names_iff
    {bound : Nat}
    {segment : Segment}
    (hRead : segment.ReadBelow bound)
    (name : Text) :
    name ∈ segment.names ↔
      segment.name? = some name ∨
      ∃ spec nested,
        segment.nestedSpec? = some spec ∧
        parseSegments spec = .ok nested ∧
        name ∈ namesOf nested := by
  cases segment with
  | literal text => simp [names, name?, nestedSpec?]
  | bare own conversion =>
      simp [names, name?, nestedSpec?, eq_comm]
  | formatted own conversion spec =>
      simp [names, name?, nestedSpec?, eq_comm]
  | dynamic own conversion source nested =>
      simp [names, name?, nestedSpec?, hRead.2, eq_comm]
  | faulty own conversion source fault =>
      simp [names, name?, nestedSpec?, hRead.2, eq_comm]

theorem mem_namesOf_iff
    (segments : List Segment)
    (name : Text) :
    name ∈ namesOf segments ↔
      ∃ segment ∈ segments, name ∈ segment.names := by
  induction segments with
  | nil => simp [namesOf]
  | cons segment rest ih => simp [namesOf, ih]

/-
  The names of a template are those of its fields and, for
  each spec that holds fields, the names of that spec read as
  a template.
-/
theorem Template.mem_names_iff
    {source : Text}
    {template : Template}
    (hParse : parse source = .ok template)
    (name : Text) :
    name ∈ template.names ↔
      name ∈ template.fieldNames ∨
      ∃ spec ∈ template.nestedSpecs,
        ∃ inner, parse spec = .ok inner ∧ name ∈ inner.names := by
  rcases (map_eq_ok_iff _ _ _).mp hParse with
    ⟨segments, hSegments, rfl⟩
  have hRead := readBelow_of_parseSegments hSegments
  unfold names fieldNames nestedSpecs
  simp only [mem_namesOf_iff segments, List.mem_filterMap]
  constructor
  · rintro ⟨segment, hMem, hName⟩
    rcases (Segment.mem_names_iff (hRead segment hMem) name).mp
        hName with
      hOwn | ⟨spec, nested, hSpec, hNested, hInside⟩
    · exact Or.inl ⟨segment, hMem, hOwn⟩
    · refine
        Or.inr ⟨spec, ⟨segment, hMem, hSpec⟩, ⟨spec, nested⟩, ?_,
          hInside⟩
      rw [parse, hNested]
      rfl
  · rintro (⟨segment, hMem, hOwn⟩ |
      ⟨spec, ⟨segment, hMem, hSpec⟩, inner, hInner, hInside⟩)
    · exact
        ⟨segment, hMem,
          (Segment.mem_names_iff (hRead segment hMem) name).mpr
            (Or.inl hOwn)⟩
    · rcases (map_eq_ok_iff _ _ _).mp hInner with
        ⟨nested, hNested, rfl⟩
      exact
        ⟨segment, hMem,
          (Segment.mem_names_iff (hRead segment hMem) name).mpr
            (Or.inr ⟨spec, nested, hSpec, hNested, hInside⟩)⟩

end LogLine

------------------------------------------------------------
-- Specs That Are Read Again
------------------------------------------------------------

namespace LogLine

/- Read a text as a template and fill it in. -/
def fillText
    (lookup : Lookup)
    (source : Text) :
    Except RenderError Text := do
  let segments ←
    (parseSegments source).mapError RenderError.ofParseError
  renderSegments lookup segments

/-
  Fill in one piece.  What it keeps of a spec with fields is
  not used: the text of the spec is given to `again`, which
  may have no answer.
-/
def Segment.fillAgain
    (again : Text → Option (Except RenderError Text))
    (lookup : Lookup) :
    Segment → Option (Except RenderError Text)
  | dynamic name conversion source _
  | faulty name conversion source _ =>
      match lookup.valueFor name conversion with
      | .error fault => some (.error fault)
      | .ok value =>
          (again source).map fun specText => do
            let specText ← specText
            liftFormat (do
              let spec ← Spec.parse specText
              spec.apply value)
  | literal text => some (.ok text)
  | bare name conversion =>
      some ((bare name conversion).fill lookup)
  | formatted name conversion spec =>
      some ((formatted name conversion spec).fill lookup)

/- Fill in the pieces from left to right, up to a failure. -/
def fillSegmentsAgain
    (again : Text → Option (Except RenderError Text))
    (lookup : Lookup) :
    List Segment → Option (Except RenderError Text)
  | [] => some (.ok [])
  | segment :: rest =>
      match segment.fillAgain again lookup with
      | none => none
      | some (.error fault) => some (.error fault)
      | some (.ok text) =>
          (fillSegmentsAgain again lookup rest).map
            (fun behind => behind.map (text ++ ·))

/-
  Read a text and fill it in, and each spec with fields in the
  same way when its field comes up.  There is no answer if
  specs stand in specs deeper than `depth`.
-/
def fillWithin
    (lookup : Lookup) :
    (depth : Nat) → Text → Option (Except RenderError Text)
  | 0, _ => none
  | depth + 1, source =>
      match parseSegments source with
      | .error fault =>
          some (.error (RenderError.ofParseError fault))
      | .ok segments =>
          fillSegmentsAgain (fillWithin lookup depth) lookup
            segments

variable {lookup : Lookup}
variable {again : Text → Option (Except RenderError Text)}
variable {bound : Nat}

/- Reading a spec again gives what it gave at first. -/
theorem Segment.fillAgain_eq_fill
    (hAgain :
      ∀ source, source.length < bound →
        again source = some (fillText lookup source))
    {segment : Segment}
    (hRead : segment.ReadBelow bound) :
    segment.fillAgain again lookup =
      some (segment.fill lookup) := by
  cases segment with
  | literal text => rfl
  | bare name conversion => rfl
  | formatted name conversion spec => rfl
  | dynamic name conversion source nested =>
      rw [fillAgain, fill, hAgain source hRead.1, fillText,
        hRead.2]
      cases lookup.valueFor name conversion with
      | error fault => rfl
      | ok value => rfl
  | faulty name conversion source fault =>
      rw [fillAgain, fill, hAgain source hRead.1, fillText,
        hRead.2]
      cases lookup.valueFor name conversion with
      | error missing => rfl
      | ok value => rfl

theorem fillSegmentsAgain_eq_renderSegments
    (hAgain :
      ∀ source, source.length < bound →
        again source = some (fillText lookup source))
    {segments : List Segment}
    (hRead : ∀ segment ∈ segments, segment.ReadBelow bound) :
    fillSegmentsAgain again lookup segments =
      some (renderSegments lookup segments) := by
  induction segments with
  | nil => rfl
  | cons segment rest ih =>
      rw [List.forall_mem_cons] at hRead
      rw [fillSegmentsAgain, renderSegments,
        Segment.fillAgain_eq_fill hAgain hRead.1, ih hRead.2]
      cases segment.fill lookup with
      | error fault => rfl
      | ok text =>
          cases renderSegments lookup rest with
          | error fault => rfl
          | ok behind => rfl

/-
  By induction on the depth: a spec is shorter than the text
  that it stands in, so the depth never runs out.
-/
theorem fillWithin_eq_fillText
    (lookup : Lookup)
    {depth : Nat}
    {source : Text}
    (hDepth : source.length < depth) :
    fillWithin lookup depth source =
      some (fillText lookup source) := by
  induction depth generalizing source with
  | zero => exact absurd hDepth (Nat.not_lt_zero _)
  | succ depth ih =>
      rw [fillWithin, fillText]
      cases hParse : parseSegments source with
      | error fault => rfl
      | ok segments =>
          refine
            fillSegmentsAgain_eq_renderSegments ?_
              (readBelow_of_parseSegments hParse)
          intro spec hShorter
          exact ih (by omega)

end LogLine

------------------------------------------------------------
-- Names Only
------------------------------------------------------------

namespace LogLine

/-
  Filling in a template reads the values of its names and
  nothing else, misses none but these, and ends also if its
  specs are read again.
-/
theorem render_reads_names_only
    {source : Text}
    {template : Template}
    (hParse : Template.parse source = .ok template) :
    (∀ name,
      name ∈ template.names ↔
        name ∈ template.fieldNames ∨
        ∃ spec ∈ template.nestedSpecs,
          ∃ inner,
            Template.parse spec = .ok inner ∧
              name ∈ inner.names) ∧
    (∀ first second : Lookup,
      (∀ name ∈ template.names, first name = second name) →
        template.render first = template.render second) ∧
    (∀ (lookup : Lookup) (name : Text),
      template.render lookup = .error (.missingField name) →
        name ∈ template.names ∧ lookup name = none) ∧
    ∀ (lookup : Lookup) (depth : Nat),
      source.length < depth →
        fillWithin lookup depth source =
          some (template.render lookup) := by
  refine ⟨Template.mem_names_iff hParse, ?_, ?_, ?_⟩
  · intro first second hSame
    exact renderSegments_congr template.segments hSame
  · intro lookup name hMissing
    exact missingField_of_renderSegments template.segments hMissing
  · intro lookup depth hDepth
    rcases (map_eq_ok_iff _ _ _).mp hParse with
      ⟨segments, hSegments, rfl⟩
    rw [fillWithin_eq_fillText lookup hDepth, fillText, hSegments]
    rfl

/- A field whose width is a field in its spec. -/
def widthSource : Text :=
  "\x7bmessage:>\x7bwidth\x7d\x7d".toList

/- A message that looks like a field, and a width. -/
def bracedLookup : Lookup :=
  (Dict.ofList
    [("message".toList, .str "\x7bname\x7d".toList),
     ("width".toList, .str "8".toList)]).get?

/- The same, and a value for the name in the message. -/
def namedLookup : Lookup :=
  (Dict.ofList
    [("message".toList, .str "\x7bname\x7d".toList),
     ("name".toList, .str "app".toList),
     ("width".toList, .str "8".toList)]).get?

theorem render_reads_names_only_of_width :
    ∃ template,
      Template.parse widthSource = .ok template ∧
      "width".toList ∈ template.names ∧
      template.render namedLookup =
        .ok "  \x7bname\x7d".toList ∧
      template.render bracedLookup =
        template.render namedLookup ∧
      fillWithin bracedLookup 19 widthSource =
        some (template.render bracedLookup) := by
  have hRun :
      (Template.parse widthSource).toOption.map
          (fun template =>
            (template.names, template.render namedLookup)) =
        some
          (["message".toList, "width".toList],
            .ok "  \x7bname\x7d".toList) := by
    decide +kernel
  simp only [Option.map_eq_some_iff, toOption_eq_some_iff,
    Prod.mk.injEq] at hRun
  rcases hRun with ⟨template, hParse, hNames, hText⟩
  rcases render_reads_names_only hParse with
    ⟨-, hSame, -, hEnds⟩
  refine ⟨template, hParse, ?_, hText, ?_, ?_⟩
  · rw [hNames]
    decide
  · apply hSame
    rw [hNames]
    decide
  · exact hEnds bracedLookup 19 (by decide)

end LogLine
