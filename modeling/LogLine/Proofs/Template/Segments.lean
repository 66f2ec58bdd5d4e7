import LogLine.Template.Rendering
import LogLine.Proofs.Outcome
import LogLine.Proofs.Template.RoundTrip

/-
  The pieces of a template from its tokens.  How text is cut
  into tokens and where the tokens stand has no part in them.

  Key definitions include:
    * `LogLine.Token.segment`
    * `LogLine.Field.piece`
    * `LogLine.readSegments`

  Key theorems include:
    * `LogLine.parseSegments_eq_scan`
    * `LogLine.parseSegments_eq_readSegments`
    * `LogLine.parseSegments_unparse`
    * `LogLine.Field.piece_eq_ok`
    * `LogLine.Field.piece_eq_error`
    * `LogLine.readSegments_faulty`
-/

------------------------------------------------------------
-- Pieces of Tokens
------------------------------------------------------------

namespace LogLine

/- A token as a piece of a template. -/
def Token.segment : Token → Except ParseError Segment
  | literal text => .ok (.literal text)
  | field f => f.segment (fun spec _ => parseSegments spec)

/- The pieces of tokens, literals in one. -/
def readSegments :
    List Token → Except ParseError (List Segment)
  | [] => .ok []
  | token :: rest => do
      let piece ← token.segment
      let segments ← readSegments rest
      return piece.cons segments

theorem readSegments_eq_mapM
    (tokens : List Token) :
    readSegments tokens =
      (tokens.mapM Token.segment).map
        (fun pieces => pieces.foldr Segment.cons []) := by
  induction tokens with
  | nil => rfl
  | cons token rest ih =>
      rw [readSegments, ih, List.mapM_cons]
      cases token.segment with
      | error fault => rfl
      | ok piece =>
          cases rest.mapM Token.segment with
          | error fault => rfl
          | ok pieces => rfl

/-
  A template is read by its pieces up to the first violation,
  and a piece that cannot be read comes first.
-/
theorem parseSegments_eq_scan
    (source : Text) :
    parseSegments source =
      (do
        let segments ← readSegments (scan source).tokens
        match (scan source).violation with
        | some violation => .error (.malformed violation)
        | none => .ok segments) := by
  rw [parseSegments, readSegments_eq_mapM,
    List.mapM_subtype (g := Token.segment),
    List.unattach_attach]
  · cases (scan source).tokens.mapM Token.segment with
    | error fault => rfl
    | ok pieces =>
        cases (scan source).violation with
        | none => rfl
        | some violation => rfl
  · rintro (text | f) hMem
    · rfl
    · rfl

/- Reading a template gives the pieces of its tokens. -/
theorem parseSegments_eq_readSegments
    {source : Text}
    {tokens : List Token}
    (hRead : tokenize source = .ok tokens) :
    parseSegments source = readSegments tokens := by
  have hScan := (tokenize_eq_ok_iff_scan source tokens).mp hRead
  rw [parseSegments_eq_scan, hScan]
  cases readSegments tokens with
  | error fault => rfl
  | ok segments => rfl

end LogLine

------------------------------------------------------------
-- What a Piece Depends On
------------------------------------------------------------

namespace LogLine

/-
  A field as a piece of a template: its name, its conversion
  and its spec count; an empty spec is as good as none.
-/
def Field.piece
    (field : Field) :
    Except ParseError Segment := do
  let conversion ← field.conversion?
  match field.effectiveSpec with
  | none => return .bare field.name conversion
  | some spec =>
      if '{' ∈ spec then
        match parseSegments spec with
        | .ok nested =>
            return .dynamic field.name conversion spec nested
        | .error fault =>
            return .faulty field.name conversion spec fault
      else
        match Spec.parse spec with
        | .ok parsed =>
            return .formatted field.name conversion parsed
        | .error failure => throw (.format failure)

theorem Field.spec_of_effectiveSpec
    {f : Field}
    {spec : Text}
    (hSpec : f.effectiveSpec = some spec) :
    f.spec = some spec := by
  unfold effectiveSpec at hSpec
  exact (Option.filter_eq_some_iff.mp hSpec).1

theorem Token.segment_field
    (f : Field) :
    (field f).segment = f.piece := by
  rcases f with ⟨name, conversion, spec, offset⟩
  unfold segment Field.segment Field.piece
  cases spec with
  | none => rfl
  | some text =>
      cases text with
      | nil => rfl
      | cons c rest => rfl

@[simp]
theorem Token.segment_placed
    (token : Token)
    (offset : Nat) :
    (token.placed offset).segment = token.segment := by
  cases token with
  | literal text => rfl
  | field f =>
      show (field { f with offset }).segment = _
      rw [segment_field, segment_field]
      rfl

/- Joining pieces of text can be left to any side. -/
theorem Segment.cons_literal_cons_literal
    (first second : Text)
    (segments : List Segment) :
    cons (literal first) (cons (literal second) segments) =
      cons (literal (first ++ second)) segments := by
  cases segments with
  | nil => rfl
  | cons segment rest =>
      cases segment with
      | literal third => simp [cons]
      | bare name conversion => rfl
      | formatted name conversion spec => rfl
      | dynamic name conversion source nested => rfl
      | faulty name conversion source fault => rfl

@[simp]
theorem readSegments_placeTokens
    (offset : Nat)
    (tokens : List Token) :
    readSegments (placeTokens offset tokens) =
      readSegments tokens := by
  induction tokens generalizing offset with
  | nil => rfl
  | cons token rest ih =>
      rw [placeTokens, readSegments, readSegments, ih,
        Token.segment_placed]

theorem readSegments_joinTo
    (token : Token)
    (tokens : List Token) :
    readSegments (token.joinTo tokens) =
      readSegments (token :: tokens) := by
  rcases token.joinTo_cases tokens with
    ⟨hEq, -⟩ | ⟨first, second, rest, rfl, rfl, -, -, hEq⟩
  · rw [hEq]
  · rw [hEq]
    simp only [readSegments, Token.segment]
    cases readSegments rest with
    | error fault => rfl
    | ok segments =>
        have hJoin :=
          Segment.cons_literal_cons_literal first second segments
        exact congrArg Except.ok hJoin.symm

@[simp]
theorem readSegments_joinText
    (tokens : List Token) :
    readSegments (joinText tokens) = readSegments tokens := by
  induction tokens with
  | nil => rfl
  | cons token rest ih =>
      show readSegments (token.joinTo (joinText rest)) = _
      rw [readSegments_joinTo, readSegments, readSegments, ih]

/- Tokens that read back have the pieces of what they write. -/
theorem parseSegments_unparse
    {tokens : List Token}
    (hReadable : ∀ token ∈ tokens, token.Readable) :
    parseSegments (unparse tokens) = readSegments tokens := by
  rw [parseSegments_eq_readSegments (tokenize_unparse hReadable),
    readSegments_placeTokens, readSegments_joinText]

theorem Template.parse_unparse
    {tokens : List Token}
    (hReadable : ∀ token ∈ tokens, token.Readable) :
    Template.parse (unparse tokens) =
      (readSegments tokens).map
        (fun segments => ⟨unparse tokens, segments⟩) := by
  rw [Template.parse, parseSegments_unparse hReadable]

end LogLine

------------------------------------------------------------
-- Kinds of Pieces
------------------------------------------------------------

namespace LogLine

/- What a field becomes: four kinds of pieces by its spec. -/
theorem Field.piece_eq_ok
    {f : Field}
    {piece : Segment}
    (hPiece : f.piece = .ok piece) :
    ∃ conversion,
      (f.effectiveSpec = none ∧
        piece = .bare f.name conversion) ∨
      (∃ spec parsed,
        f.effectiveSpec = some spec ∧ '{' ∉ spec ∧
        Spec.parse spec = .ok parsed ∧
        piece = .formatted f.name conversion parsed) ∨
      (∃ spec nested,
        f.effectiveSpec = some spec ∧ '{' ∈ spec ∧
        parseSegments spec = .ok nested ∧
        piece = .dynamic f.name conversion spec nested) ∨
      (∃ spec fault,
        f.effectiveSpec = some spec ∧ '{' ∈ spec ∧
        parseSegments spec = .error fault ∧
        piece = .faulty f.name conversion spec fault) := by
  unfold Field.piece at hPiece
  rw [bind_eq_ok_iff] at hPiece
  rcases hPiece with ⟨conversion, -, hPiece⟩
  refine ⟨conversion, ?_⟩
  cases hSpec : f.effectiveSpec with
  | none =>
      rw [hSpec] at hPiece
      cases hPiece
      exact Or.inl ⟨rfl, rfl⟩
  | some spec =>
      rw [hSpec] at hPiece
      right
      by_cases hOpen : '{' ∈ spec
      · simp only [if_pos hOpen] at hPiece
        right
        cases hNested : parseSegments spec with
        | ok nested =>
            rw [hNested] at hPiece
            cases hPiece
            exact Or.inl ⟨spec, nested, rfl, hOpen, hNested, rfl⟩
        | error fault =>
            rw [hNested] at hPiece
            cases hPiece
            exact Or.inr ⟨spec, fault, rfl, hOpen, hNested, rfl⟩
      · simp only [if_neg hOpen] at hPiece
        left
        cases hParse : Spec.parse spec with
        | error failure =>
            rw [hParse] at hPiece
            cases hPiece
        | ok parsed =>
            rw [hParse] at hPiece
            cases hPiece
            exact ⟨spec, parsed, rfl, hOpen, hParse, rfl⟩

end LogLine

------------------------------------------------------------
-- Faults of Pieces
------------------------------------------------------------

namespace LogLine

/- If all tokens together can be read, each of them can. -/
theorem readSegments_readable
    {tokens : List Token}
    {segments : List Segment}
    (hRead : readSegments tokens = .ok segments) :
    ∀ token ∈ tokens, ∃ piece, token.segment = .ok piece := by
  induction tokens generalizing segments with
  | nil => simp
  | cons token tokens ih =>
      simp only [readSegments, bind_eq_ok_iff] at hRead
      rcases hRead with ⟨piece, hPiece, behind, hBehind, -⟩
      rw [List.forall_mem_cons]
      exact ⟨⟨piece, hPiece⟩, ih hBehind⟩

/- A fault in the tokens is the fault of one of them. -/
theorem readSegments_faulty
    {tokens : List Token}
    {fault : ParseError}
    (hFault : readSegments tokens = .error fault) :
    ∃ token ∈ tokens, token.segment = .error fault := by
  induction tokens with
  | nil => cases hFault
  | cons token rest ih =>
      simp only [readSegments, bind_eq_error_iff] at hFault
      rcases hFault with
        hToken | ⟨piece, -, hLater | ⟨behind, -, hCons⟩⟩
      · exact ⟨token, List.mem_cons_self, hToken⟩
      · rcases ih hLater with ⟨other, hMem, hOther⟩
        exact ⟨other, List.mem_cons_of_mem token hMem, hOther⟩
      · cases hCons

/- If every token can be read, all of them together can. -/
theorem exists_readSegments
    {tokens : List Token}
    (hReadable :
      ∀ token ∈ tokens, ∃ piece, token.segment = .ok piece) :
    ∃ segments, readSegments tokens = .ok segments := by
  cases hRead : readSegments tokens with
  | ok segments => exact ⟨segments, rfl⟩
  | error fault =>
      rcases readSegments_faulty hRead with
        ⟨token, hMem, hFault⟩
      rcases hReadable token hMem with ⟨piece, hPiece⟩
      rw [hPiece] at hFault
      cases hFault

/- Without some of its tokens a template can be read as well. -/
theorem exists_readSegments_filter
    {tokens : List Token}
    {segments : List Segment}
    (hRead : readSegments tokens = .ok segments)
    (keep : Token → Bool) :
    ∃ visible,
      readSegments (tokens.filter keep) = .ok visible :=
  exists_readSegments fun token hMem =>
    readSegments_readable hRead token (List.mem_filter.mp hMem).1

theorem Field.conversion?_eq_error
    {f : Field}
    {fault : ParseError}
    (hFault : f.conversion? = .error fault) :
    ∃ c,
      f.conversion = some c ∧
      Conversion.ofChar? c = none ∧
      fault = .conversion c := by
  unfold Field.conversion? at hFault
  cases hChar : f.conversion with
  | none =>
      rw [hChar] at hFault
      cases hFault
  | some c =>
      rw [hChar] at hFault
      cases hKnown : Conversion.ofChar? c with
      | some conversion => simp [hKnown] at hFault
      | none =>
          simp only [hKnown, Except.error.injEq] at hFault
          exact ⟨c, rfl, hKnown, hFault.symm⟩

/- Why a field is no piece: its conversion or its spec. -/
theorem Field.piece_eq_error
    {f : Field}
    {fault : ParseError}
    (hFault : f.piece = .error fault) :
    (∃ c,
      f.conversion = some c ∧
      Conversion.ofChar? c = none ∧
      fault = .conversion c) ∨
    (∃ spec,
      f.effectiveSpec = some spec ∧
      '{' ∉ spec ∧
      Spec.parse? spec = none ∧
      fault = .format (.invalidSpec spec)) := by
  unfold Field.piece at hFault
  rw [bind_eq_error_iff] at hFault
  rcases hFault with hConversion | ⟨conversion, -, hFault⟩
  · exact Or.inl (Field.conversion?_eq_error hConversion)
  · right
    cases hSpec : f.effectiveSpec with
    | none =>
        rw [hSpec] at hFault
        cases hFault
    | some spec =>
        rw [hSpec] at hFault
        by_cases hOpen : '{' ∈ spec
        · -- A fault in a spec with fields is kept in the piece.
          simp only [if_pos hOpen] at hFault
          cases hNested : parseSegments spec with
          | error inner =>
              rw [hNested] at hFault
              cases hFault
          | ok nested =>
              rw [hNested] at hFault
              cases hFault
        · simp only [if_neg hOpen] at hFault
          cases hParse : Spec.parse spec with
          | ok parsed =>
              rw [hParse] at hFault
              cases hFault
          | error failure =>
              rw [hParse] at hFault
              cases hFault
              rcases Spec.parse_eq_error_iff.mp hParse with
                ⟨rfl, hNone⟩
              exact ⟨spec, rfl, hOpen, hNone, rfl⟩

end LogLine
