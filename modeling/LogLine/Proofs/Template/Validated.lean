import LogLine.Template.Validation
import LogLine.Proofs.Template.FieldNames
import LogLine.Proofs.Template.GroupMarkup
import LogLine.Proofs.Template.MarkerPairs
import LogLine.Proofs.Template.Segments
import LogLine.Proofs.Template.SpecText

/-
  What the check of a raw template is good for: without and
  with its markers the template can be read again, and only a
  number in a spec can keep it from being filled in.

  Key definitions include:
    * `LogLine.ReadsUpToCounts`

  Key theorems include:
    * `LogLine.Field.check_eq_ok_iff`
    * `LogLine.validate_eq_ok_iff`
    * `LogLine.reads_of_validate`
-/

------------------------------------------------------------
-- Checked Templates
------------------------------------------------------------

namespace LogLine

/- What a field that passes its check looks like. -/
theorem Field.check_eq_ok_iff
    (f : Field) :
    f.check = .ok () ↔
      (f.name ≠ [] → isFieldName f.name = true) ∧
      (∀ c ∈ f.conversion, c ∈ conversions) ∧
      (∀ spec ∈ f.effectiveSpec, isSpecText spec = true) := by
  have hName :
      ¬ (!f.name.isEmpty && !isFieldName f.name) = true ↔
        (f.name ≠ [] → isFieldName f.name = true) := by
    simp
  unfold check
  simp only
  rw [throw_if_bind_eq_ok_iff, hName]
  cases f.conversion with
  | none =>
      cases f.effectiveSpec with
      | none => simp [pure, Except.pure]
      | some spec =>
          simp only [throw_if_eq_ok_iff]
          simp
  | some c =>
      cases f.effectiveSpec with
      | none =>
          simp only [throw_if_bind_eq_ok_iff]
          simp [pure, Except.pure]
      | some spec =>
          simp only [throw_if_bind_eq_ok_iff, throw_if_eq_ok_iff]
          simp

theorem mem_filterMap_field?_iff
    (tokens : List Token)
    (f : Field) :
    f ∈ tokens.filterMap Token.field? ↔
      Token.field f ∈ tokens := by
  rw [List.mem_filterMap]
  constructor
  · rintro ⟨token, hMem, hField⟩
    cases token with
    | literal text => cases hField
    | field g =>
        cases hField
        exact hMem
  · intro hMem
    exact ⟨.field f, hMem, rfl⟩

theorem mem_namedFields_iff
    (read : Scan)
    (f : Field) :
    f ∈ read.namedFields ↔
      Token.field f ∈ read.tokens ∧ f.name ≠ [] := by
  unfold Scan.namedFields
  rw [List.mem_filter, mem_filterMap_field?_iff]
  simp

/- What a template that passes its check looks like. -/
theorem validate_eq_ok_iff
    (raw : Text)
    (allowed extra : List Text) :
    validate raw allowed extra = .ok () ↔
      (∀ f, Token.field f ∈ (scan raw).tokens →
        f.check = .ok ()) ∧
      (scan raw).violation = none ∧
      (scan raw).namedFields ≠ [] ∧
      (∀ f ∈ (scan raw).namedFields,
        f.bareName ∈ allowed ∨ f.bareName ∈ extra) := by
  have hFields :
      ((scan raw).tokens.filterMap Token.field?).forM
          Field.check = .ok () ↔
        (∀ f, Token.field f ∈ (scan raw).tokens →
          f.check = .ok ()) := by
    rw [forM_eq_ok_iff]
    simp only [mem_filterMap_field?_iff]
  have hKnown :
      ¬ (!(((scan raw).namedFields.map Field.bareName).filter
          (fun name => name ∉ allowed ∧ name ∉ extra)).isEmpty)
        = true ↔
      (∀ f ∈ (scan raw).namedFields,
        f.bareName ∈ allowed ∨ f.bareName ∈ extra) := by
    simp [List.filter_eq_nil_iff, or_iff_not_imp_left]
  unfold validate
  simp only
  rw [bind_eq_ok_iff, ← hFields]
  cases (scan raw).violation with
  | some violation =>
      constructor
      · rintro ⟨-, -, hThrow⟩
        cases hThrow
      · rintro ⟨-, hNone, -⟩
        cases hNone
  | none =>
      simp only [throw_if_bind_eq_ok_iff, throw_if_eq_ok_iff]
      rw [hKnown, List.isEmpty_iff]
      constructor
      · rintro ⟨value, hChecked, hSome, hNames⟩
        exact ⟨hChecked, trivial, hSome, hNames⟩
      · rintro ⟨hChecked, -, hSome, hNames⟩
        exact ⟨(), hChecked, hSome, hNames⟩

end LogLine

------------------------------------------------------------
-- Names of Checked Templates
------------------------------------------------------------

namespace LogLine

theorem unbraced_of_dropInitial
    {name : Text}
    (hBare : ∀ c ∈ name.dropInitial '_', isBrace c = false) :
    ∀ c ∈ name, isBrace c = false := by
  rcases name.dropInitial_cases '_' with
    ⟨-, hSame⟩ | ⟨rest, rfl, hRest⟩
  · rw [hSame] at hBare
    exact hBare
  · rw [hRest] at hBare
    rw [List.forall_mem_cons]
    exact ⟨by decide, hBare⟩

theorem balanced_of_dropInitial
    {name : Text}
    (hBare : BracesBalanced (name.dropInitial '_')) :
    BracesBalanced name := by
  rcases name.dropInitial_cases '_' with
    ⟨-, hSame⟩ | ⟨rest, rfl, hRest⟩
  · rw [hSame] at hBare
    exact hBare
  · rw [hRest] at hBare
    exact
      (braceDepth_cons_of_not_isBrace (by decide) 0
        rest).trans hBare

/- The names of a checked template are well formed and known. -/
theorem isFieldName_of_validate
    {raw : Text}
    {allowed extra : List Text}
    (hValid : validate raw allowed extra = .ok ())
    {tokens : List Token}
    (hRead : tokenize raw = .ok tokens)
    {f : Field}
    (hMem : Token.field f ∈ tokens)
    (hName : f.name ≠ []) :
    isFieldName f.name = true ∧
      f.bareName ∈ allowed ++ extra := by
  have hScan := (tokenize_eq_ok_iff_scan raw tokens).mp hRead
  rcases (validate_eq_ok_iff raw allowed extra).mp hValid with
    ⟨hChecked, -, -, hKnown⟩
  simp only [mem_namedFields_iff, hScan] at hChecked hKnown
  exact
    ⟨((Field.check_eq_ok_iff f).mp (hChecked f hMem)).1 hName,
      List.mem_append.mpr (hKnown f ⟨hMem, hName⟩)⟩

/- A checked template reads back under any names. -/
theorem renamable_of_validate
    {raw : Text}
    {allowed extra : List Text}
    (hUnbraced :
      ∀ name ∈ allowed ++ extra, ∀ c ∈ name,
        isBrace c = false)
    (hValid : validate raw allowed extra = .ok ())
    {tokens : List Token}
    (hRead : tokenize raw = .ok tokens) :
    ∀ token ∈ tokens, token.Renamable := by
  have hCanonical := ((tokenize_eq_ok_iff raw tokens).mp hRead).2.1
  intro token hMem
  refine ⟨hCanonical.readable token hMem, ?_⟩
  cases token with
  | literal text => exact trivial
  | field f =>
      show PlainName f.name
      by_cases hName : f.name = []
      · rw [hName]
        decide
      · rcases isFieldName_of_validate hValid hRead hMem hName with
          ⟨hShape, hKnown⟩
        exact
          plainName_of_isFieldName hShape
            (unbraced_of_dropInitial
              (hUnbraced f.bareName hKnown))

/- The same holds where the braces in known names balance. -/
theorem writable_of_validate
    {raw : Text}
    {allowed extra : List Text}
    (hBalanced :
      ∀ name ∈ allowed ++ extra, BracesBalanced name)
    (hValid : validate raw allowed extra = .ok ())
    {tokens : List Token}
    (hRead : tokenize raw = .ok tokens) :
    ∀ token ∈ tokens, token.Writable := by
  have hCanonical := ((tokenize_eq_ok_iff raw tokens).mp hRead).2.1
  intro token hMem
  cases token with
  | literal text => exact hCanonical.readable _ hMem
  | field f =>
      have hReadable : f.Readable := hCanonical.readable _ hMem
      refine ⟨hReadable, ?_⟩
      by_cases hName : f.name = []
      · have hEmpty : PlainName f.name := by
          rw [hName]
          decide
        exact hEmpty.writable hReadable.separators
      · rcases isFieldName_of_validate hValid hRead hMem hName with
          ⟨hShape, hKnown⟩
        exact
          { balanced :=
              balanced_of_dropInitial
                (hBalanced f.bareName hKnown)
            braces := onlyInIndex_of_isFieldName hShape
            closed := not_unclosedIndex_of_isFieldName hShape
            separators := hReadable.separators }

end LogLine

------------------------------------------------------------
-- Conversions and Specs of Written Fields
------------------------------------------------------------

namespace LogLine

/-
  The conversion and the spec of a field are those of a field
  among some tokens, or it has neither.
-/
def Field.TailAmong
    (tokens : List Token)
    (f : Field) : Prop :=
  (f.conversion = none ∧ f.effectiveSpec = none) ∨
  ∃ g,
    Token.field g ∈ tokens ∧
      f.conversion = g.conversion ∧
      f.effectiveSpec = g.effectiveSpec

namespace Field

theorem TailAmong.mono
    {first second : List Token}
    {f : Field}
    (hTail : f.TailAmong first)
    (hSubset : first ⊆ second) :
    f.TailAmong second := by
  rcases hTail with hNone | ⟨g, hMem, hSame⟩
  · exact Or.inl hNone
  · exact Or.inr ⟨g, hSubset hMem, hSame⟩

theorem tailAmong_named
    (tokens : List Token)
    (name : Text) :
    (named name).TailAmong tokens :=
  Or.inl ⟨rfl, rfl⟩

theorem tailAmong_renamed
    {tokens : List Token}
    {f : Field}
    (hMem : Token.field f ∈ tokens)
    (name : Text) :
    (f.renamed name).TailAmong tokens :=
  Or.inr ⟨f, hMem, rfl, effectiveSpec_renamed f name⟩

theorem tailAmong_uncolored
    {tokens : List Token}
    {token : Token}
    (hMem : token ∈ tokens)
    {f : Field}
    (hField : Token.field f = token.uncolored) :
    f.TailAmong tokens := by
  cases token with
  | literal text => cases hField
  | field g =>
      cases hField
      exact tailAmong_renamed hMem _

end Field

/- Markers take conversions and specs only from the template. -/
theorem MarkedUp.tailAmong
    {raw out : List Token}
    (hMarked : MarkedUp raw out) :
    ∀ f, Token.field f ∈ out → f.TailAmong raw := by
  induction hMarked with
  | nil => simp
  | @copied token raw out _ _ _ ih =>
      intro f hMem
      rcases List.mem_cons.mp hMem with hFirst | hRest
      · exact
          Field.tailAmong_uncolored List.mem_cons_self hFirst
      · exact (ih f hRest).mono (List.subset_cons_self token raw)
  | @single g raw out _ _ ih =>
      intro f hMem
      simp only [List.mem_cons] at hMem
      rcases hMem with hOpener | hShown | hCloser | hRest
      · cases hOpener
        exact Field.tailAmong_named _ _
      · exact
          Field.tailAmong_uncolored List.mem_cons_self hShown
      · cases hCloser
        exact Field.tailAmong_named _ _
      · exact (ih f hRest).mono (List.subset_cons_self _ raw)
  | @group enter exit name inside raw out _ _ _ _ _ ih =>
      intro f hMem
      simp only [List.mem_cons, List.mem_append] at hMem
      rcases hMem with hOpener | hInside | hCloser | hRest
      · cases hOpener
        exact Field.tailAmong_renamed List.mem_cons_self _
      · rcases List.mem_map.mp hInside with
          ⟨token, hToken, hShown⟩
        refine Field.tailAmong_uncolored ?_ hShown.symm
        exact
          List.mem_cons_of_mem _ (List.mem_append_left _ hToken)
      · cases hCloser
        refine Field.tailAmong_renamed ?_ _
        simp
      · apply (ih f hRest).mono
        intro token hToken
        simp [hToken]

end LogLine

------------------------------------------------------------
-- Reading What Was Written
------------------------------------------------------------

namespace LogLine

/-
  A text reads as a template, except for a spec of the raw
  template that has no field in it and asks for a number that
  is too large, or holds a digit of another script.
-/
def ReadsUpToCounts
    (raw text : Text) : Prop :=
  (∃ template, Template.parse text = .ok template) ∨
  ∃ f spec,
    Token.field f ∈ (scan raw).tokens ∧
    f.spec = some spec ∧
    '{' ∉ spec ∧
    (ForeignDigit spec ∨ HugeCount spec) ∧
    Template.parse text = .error (.format (.invalidSpec spec))

theorem Conversion.ofChar?_of_mem
    {c : Char}
    (hMem : c ∈ conversions) :
    ofChar? c ≠ none := by
  simp only [conversions, List.mem_cons, List.not_mem_nil,
    or_false] at hMem
  rcases hMem with rfl | rfl | rfl
  · simp [ofChar?]
  · simp [ofChar?]
  · simp [ofChar?]

/- Fields with checked conversions and specs can be read. -/
theorem readsUpToCounts_unparse
    {raw : Text}
    {tokens out : List Token}
    (hRead : tokenize raw = .ok tokens)
    (hChecked :
      ∀ f, Token.field f ∈ tokens → f.check = .ok ())
    (hReadable : ∀ token ∈ out, token.Readable)
    (hTails :
      ∀ f, Token.field f ∈ out → f.TailAmong tokens) :
    ReadsUpToCounts raw (unparse out) := by
  have hScan := (tokenize_eq_ok_iff_scan raw tokens).mp hRead
  unfold ReadsUpToCounts
  rw [Template.parse_unparse hReadable, hScan]
  cases hPieces : readSegments out with
  | ok segments => exact Or.inl ⟨_, rfl⟩
  | error fault =>
      right
      rcases readSegments_faulty hPieces with
        ⟨token, hMem, hFault⟩
      cases token with
      | literal text => cases hFault
      | field f =>
          rw [Token.segment_field] at hFault
          rcases Field.piece_eq_error hFault with
            ⟨c, hChar, hUnknown, -⟩ |
              ⟨spec, hSpec, hBrace, hNone, rfl⟩
          · rcases hTails f hMem with
              ⟨hBare, -⟩ | ⟨g, hOrigin, hSame, -⟩
            · rw [hBare] at hChar
              cases hChar
            · have hConversion :=
                ((Field.check_eq_ok_iff g).mp
                  (hChecked g hOrigin)).2.1 c (by
                    rw [← hSame, hChar]
                    rfl)
              exact
                absurd hUnknown
                  (Conversion.ofChar?_of_mem hConversion)
          · rcases hTails f hMem with
              ⟨-, hBare⟩ | ⟨g, hOrigin, -, hSame⟩
            · rw [hBare] at hSpec
              cases hSpec
            · rw [hSame] at hSpec
              have hShape :=
                ((Field.check_eq_ok_iff g).mp
                  (hChecked g hOrigin)).2.2 spec hSpec
              exact
                ⟨g, spec, hOrigin,
                  Field.spec_of_effectiveSpec hSpec, hBrace,
                  foreignDigit_or_hugeCount hShape hBrace hNone,
                  rfl⟩

end LogLine

------------------------------------------------------------
-- Faults of Groups
------------------------------------------------------------

namespace LogLine

/- The faults that only groups can have. -/
def groupFaults : List CompileError :=
  [.nestedGroup, .unmatchedExit, .emptyGroup,
    .unterminatedGroup]

theorem GroupFault.mem_groupFaults
    {before : List GroupMark}
    {mark : GroupMark}
    {fault : CompileError}
    (hFault : GroupFault before mark fault) :
    fault ∈ groupFaults := by
  cases hFault with
  | nested hOpen => decide
  | unmatched hClosed => decide
  | empty hFresh => decide

theorem Markup.foldlM_step_faulty
    {tokens : List Token}
    {fault : CompileError}
    (hFault : tokens.foldlM step start = .error fault) :
    fault ∈ groupFaults := by
  rw [← map_eq_error_iff (fun last => last.group.phase),
    ← run_groupMarks, Phase.run_eq_error_iff] at hFault
  rcases hFault with ⟨before, mark, after, -, -, hMark⟩
  exact hMark.mem_groupFaults

/- A template that can be read fails only for its groups. -/
theorem compile_faulty
    {raw : Text}
    {tokens : List Token}
    (hRead : tokenize raw = .ok tokens)
    {fault : CompileError}
    (hFault : compile raw = .error fault) :
    fault ∈ groupFaults := by
  rw [compile_of_tokenize hRead, bind_eq_error_iff] at hFault
  rcases hFault with hFold | ⟨final, -, hFinish⟩
  · exact Markup.foldlM_step_faulty hFold
  · rw [((Markup.finish_eq_error_iff final fault).mp hFinish).2]
    decide

end LogLine

------------------------------------------------------------
-- What the Check Is Good For
------------------------------------------------------------

namespace LogLine

/-
  A template that passes its check loses its colour without a
  fault and gets its markers unless its groups are at fault.
  Both ways it reads as a template, up to numbers in specs.
-/
theorem reads_of_validate
    {raw : Text}
    {allowed extra : List Text}
    (hUnbraced :
      ∀ name ∈ allowed ++ extra, ∀ c ∈ name,
        isBrace c = false)
    (hValid : validate raw allowed extra = .ok ()) :
    (∃ stripped,
      stripColor raw = .ok stripped ∧
        ReadsUpToCounts raw stripped) ∧
    ((∃ compiled,
      compile raw = .ok compiled ∧
        ReadsUpToCounts raw compiled) ∨
      (∃ fault ∈ groupFaults, compile raw = .error fault)) := by
  rcases (validate_eq_ok_iff raw allowed extra).mp hValid with
    ⟨hChecked, hViolation, -, -⟩
  have hRead : tokenize raw = .ok (scan raw).tokens := by
    unfold tokenize
    rw [hViolation]
  have hRenamable :=
    renamable_of_validate hUnbraced hValid hRead
  constructor
  · refine
      ⟨_, (stripColor_eq_ok_iff raw _).mpr ⟨_, hRead, rfl⟩, ?_⟩
    apply readsUpToCounts_unparse hRead hChecked
    · intro token hMem
      rcases List.mem_map.mp hMem with ⟨origin, hOrigin, rfl⟩
      exact
        (hRenamable origin
          (List.mem_filter.mp hOrigin).1).readable_uncolored
    · intro f hMem
      rcases List.mem_map.mp hMem with ⟨origin, hOrigin, hShown⟩
      exact
        Field.tailAmong_uncolored
          (List.mem_filter.mp hOrigin).1 hShown.symm
  · cases hCompile : compile raw with
    | error fault =>
        exact Or.inr ⟨fault, compile_faulty hRead hCompile, rfl⟩
    | ok compiled =>
        left
        refine ⟨compiled, rfl, ?_⟩
        rcases (compile_eq_ok_iff raw compiled).mp hCompile with
          ⟨tokens, out, hTokens, hMarked, rfl⟩
        rw [hRead] at hTokens
        cases hTokens
        exact
          readsUpToCounts_unparse hRead hChecked
            (hMarked.readable hRenamable) hMarked.tailAmong

/- A group, a bare field and a width from another field. -/
theorem reads_of_validate_of_group :
    let raw : Text :=
      ("\x7benter\x7d[\x7bl:>8\x7d]\x7bexit\x7d " ++
        "\x7b_n!r\x7d: \x7bm[0]:\x7bw\x7d.3\x7d").toList
    (∃ stripped,
      stripColor raw = .ok stripped ∧
        ReadsUpToCounts raw stripped) ∧
    ((∃ compiled,
      compile raw = .ok compiled ∧
        ReadsUpToCounts raw compiled) ∨
      (∃ fault ∈ groupFaults,
        compile raw = .error fault)) := by
  intro raw
  have hValid :
      validate raw [enterName, exitName, ['l'], ['n']]
        ["m[0]".toList] = .ok () := by
    decide +kernel
  exact reads_of_validate (by decide) hValid

end LogLine
