import LogLine.Proofs.Color.Simulation
import LogLine.Proofs.Color.Table
import LogLine.Proofs.Template.KnownNames

/-
  The two templates of a checked raw template, one with its
  markers and one without.

  Key definitions include:
    * `LogLine.Token.BareBoundary`
    * `LogLine.Field.MarkerOf`
    * `LogLine.MarkedTemplate`

  Key theorems include:
    * `LogLine.MarkedUp.markerOf`
    * `LogLine.isMarker_of_mem_names`
    * `LogLine.exists_markedTemplate`
    * `LogLine.MarkedTemplate.markersShown`
    * `LogLine.MarkedTemplate.plainTemplate_eq_ok`
-/

------------------------------------------------------------
-- Bare Group Fields
------------------------------------------------------------

namespace LogLine

namespace Token

/- A field that opens or closes a group is bare. -/
def BareBoundary : Token → Prop
  | literal _ => True
  | field f =>
      (field f).isBoundary = true →
        f.conversion = none ∧ f.effectiveSpec = none

instance :
    DecidablePred BareBoundary
  | literal _ => inferInstanceAs (Decidable True)
  | field f =>
      inferInstanceAs
        (Decidable
          ((field f).isBoundary = true →
            f.conversion = none ∧ f.effectiveSpec = none))

end Token

end LogLine

------------------------------------------------------------
-- Markers of a Template
------------------------------------------------------------

namespace LogLine

/- A bare marker, named after a field of a raw template. -/
structure Field.MarkerOf
    (f : Field)
    (raw : List Token) : Prop where
  conversion : f.conversion = none
  spec : f.effectiveSpec = none
  named :
    ∃ g,
      Token.field g ∈ raw ∧ g.role = .marked ∧
        ∃ side, f.name = SpanSide.marker side g.name

theorem Field.MarkerOf.mono
    {f : Field}
    {raw more : List Token}
    (hMarker : f.MarkerOf raw)
    (hMore : raw ⊆ more) :
    f.MarkerOf more where
  conversion := hMarker.conversion
  spec := hMarker.spec
  named := by
    rcases hMarker.named with ⟨g, hMem, hKind⟩
    exact ⟨g, hMore hMem, hKind⟩

/- Group fields lend a marker their conversion and their spec. -/
theorem Token.BareBoundary.markerOf
    {boundary g : Field}
    {raw : List Token}
    (hBare : (Token.field boundary).BareBoundary)
    (hBoundary : (Token.field boundary).isBoundary = true)
    (hMem : Token.field g ∈ raw)
    (hRole : g.role = .marked)
    (side : SpanSide) :
    (boundary.renamed (side.marker g.name)).MarkerOf raw where
  conversion := (hBare hBoundary).1
  spec :=
    (Field.effectiveSpec_renamed boundary _).trans
      (hBare hBoundary).2
  named := ⟨g, hMem, hRole, side, rfl⟩

theorem Token.Renamable.field_ne_uncolored
    {token : Token}
    (hToken : token.Renamable)
    {f : Field}
    (hMarker : LogLine.isMarker f.name = true) :
    Token.field f ≠ token.uncolored := by
  intro hSame
  have hOther := hToken.isMarker_uncolored
  rw [← hSame, Token.isMarker, hMarker] at hOther
  cases hOther

/-
  Every marker is named after a field that takes colour, and
  it is as bare as the group fields are.
-/
theorem MarkedUp.markerOf
    {raw out : List Token}
    (hMarked : MarkedUp raw out)
    (hRaw : ∀ token ∈ raw, token.Renamable)
    (hBare : ∀ token ∈ raw, token.BareBoundary)
    {f : Field}
    (hMem : Token.field f ∈ out)
    (hMarker : isMarker f.name = true) :
    f.MarkerOf raw := by
  induction hMarked with
  | nil => cases hMem
  | @copied token raw out _ _ _ ih =>
      rw [List.forall_mem_cons] at hRaw hBare
      rcases List.mem_cons.mp hMem with hFirst | hLater
      · exact absurd hFirst (hRaw.1.field_ne_uncolored hMarker)
      · exact
          (ih hRaw.2 hBare.2 hLater).mono
            (List.subset_cons_self token raw)
  | @single g raw out hRole _ ih =>
      rw [List.forall_mem_cons] at hRaw hBare
      simp only [List.mem_cons] at hMem
      rcases hMem with hOpener | hShown | hCloser | hLater
      · cases hOpener
        exact
          ⟨rfl, rfl, g, List.mem_cons_self, hRole, .enter, rfl⟩
      · exact absurd hShown (hRaw.1.field_ne_uncolored hMarker)
      · cases hCloser
        exact
          ⟨rfl, rfl, g, List.mem_cons_self, hRole, .exit, rfl⟩
      · exact
          (ih hRaw.2 hBare.2 hLater).mono
            (List.subset_cons_self _ raw)
  | @group enter exit name inside raw out hEnter hExit hInside
      hName _ ih =>
      simp only [List.forall_mem_cons,
        List.forall_mem_append] at hRaw hBare
      rcases hRaw with ⟨-, hPlain, -, hRest⟩
      rcases hBare with ⟨hBareEnter, -, hBareExit, hBareRest⟩
      rcases List.exists_of_findSome?_eq_some hName with
        ⟨token, hToken, hColor⟩
      rcases Token.exists_marked_of_colorName? hColor with
        ⟨first, rfl, hRole, rfl⟩
      have hFirst :
          Token.field first ∈
            .field enter :: (inside ++ .field exit :: raw) := by
        simp [hToken]
      simp only [List.mem_cons, List.mem_append] at hMem
      rcases hMem with hOpener | hShown | hCloser | hLater
      · cases hOpener
        exact
          hBareEnter.markerOf (by simp [Token.isBoundary, hEnter])
            hFirst hRole .enter
      · rcases List.mem_map.mp hShown with
          ⟨other, hOther, hSame⟩
        exact
          absurd hSame.symm
            ((hPlain other hOther).field_ne_uncolored hMarker)
      · cases hCloser
        exact
          hBareExit.markerOf (by simp [Token.isBoundary, hExit])
            hFirst hRole .exit
      · refine (ih hRest hBareRest hLater).mono ?_
        intro other hOther
        simp [hOther]

end LogLine

------------------------------------------------------------
-- Names in Specs
------------------------------------------------------------

namespace LogLine

theorem mem_behindFill_of_mem
    {c : Char}
    {text : Text}
    {before name after : Text}
    (hText : before ++ '{' :: name ++ after = text)
    (hMem : c ∈ name) :
    c ∈ behindFill text := by
  have hBehind : c ∈ text.tail := by
    rw [← hText]
    cases before with
    | nil => simp [hMem]
    | cons d before => simp [hMem]
  unfold behindFill
  split
  case h_2 => exact List.mem_of_mem_tail hBehind
  case h_1 d e rest =>
      split
      · exact hBehind
      · exact List.mem_of_mem_tail hBehind

theorem mem_of_isMarker
    {name : Text}
    (hMarker : isMarker name = true) :
    ∃ c ∈ name, isSpecChar c = false := by
  unfold isMarker Text.endsIn at hMarker
  rw [Bool.or_eq_true, beq_iff_eq, beq_iff_eq] at hMarker
  rcases hMarker with hEnter | hExit
  · exact
      ⟨enterSuffix, List.mem_of_getLast? hEnter,
        by decide +kernel⟩
  · exact
      ⟨exitSuffix, List.mem_of_getLast? hExit,
        by decide +kernel⟩

/- A field under no marker's name has no marker in its spec. -/
theorem isMarker_of_mem_names
    {f : Field}
    {piece : Segment}
    (hPiece : f.piece = .ok piece)
    (hOwn : isMarker f.name = false)
    (hSpec :
      ∀ spec ∈ f.effectiveSpec, isSpecText spec = true) :
    ∀ name ∈ piece.names, isMarker name = false := by
  intro name hName
  rcases Field.mem_names_piece hPiece hName with
    rfl | ⟨spec, nested, hSome, -, hNested, hInside⟩
  · exact hOwn
  · apply Bool.eq_false_iff.mpr
    intro hMarker
    rcases mem_of_isMarker hMarker with ⟨c, hMem, hOther⟩
    rcases infix_of_mem_namesOf hNested hInside with
      ⟨before, after, hText⟩
    have hChar :=
      isSpecChar_of_isSpecText (hSpec spec hSome)
        (mem_behindFill_of_mem hText hMem)
    rw [hOther] at hChar
    cases hChar

end LogLine

------------------------------------------------------------
-- Checked Templates with Markers
------------------------------------------------------------

namespace LogLine

/-
  A raw template that passed its check for some names, with
  bare groups: its tokens, and those with markers.
-/
structure MarkedTemplate
    (names : List Text)
    (raw : Text)
    (tokens out : List Token) : Prop where
  read : tokenize raw = .ok tokens
  marked : MarkedUp tokens out
  renamable : ∀ token ∈ tokens, token.Renamable
  bare : ∀ token ∈ tokens, token.BareBoundary
  checked : ∀ f, Token.field f ∈ tokens → f.check = .ok ()
  known :
    ∀ f,
      Token.field f ∈ tokens → f.name ≠ [] →
        f.bareName ∈ names

/- The template of a slot is that of a raw template's tokens. -/
theorem exists_markedTemplate
    {raw : Text}
    {extra : List Text}
    (hUnbraced :
      ∀ name ∈ extra, ∀ c ∈ name, isBrace c = false)
    (hValid : validate raw intrinsicNames extra = .ok ())
    (hBare : ∀ token ∈ (scan raw).tokens, token.BareBoundary)
    {slot : Slot}
    {template : Template}
    (hTemplate :
      Settings.colorTemplate slot raw = .ok template) :
    ∃ tokens out segments,
      MarkedTemplate (intrinsicNames ++ extra) raw tokens out ∧
      readSegments out = .ok segments ∧
      template = ⟨unparse out, segments⟩ := by
  have hNames :
      ∀ name ∈ intrinsicNames ++ extra, ∀ c ∈ name,
        isBrace c = false := by
    rw [List.forall_mem_append]
    exact ⟨unbraced_of_mem_intrinsicNames, hUnbraced⟩
  rcases Settings.colorTemplate_eq_ok hTemplate with
    ⟨tokens, out, hRead, hMarked, hParse⟩
  have hScan := (tokenize_eq_ok_iff_scan raw tokens).mp hRead
  have hRenamable := renamable_of_validate hNames hValid hRead
  have hChecked :=
    ((validate_eq_ok_iff raw intrinsicNames extra).mp hValid).1
  rw [hScan] at hChecked hBare
  rcases template with ⟨source, segments⟩
  rcases Settings.parseTemplate_unparse
      (hMarked.readable hRenamable) hParse with
    ⟨hPieces, rfl⟩
  refine ⟨tokens, out, segments, ?_, hPieces, rfl⟩
  refine ⟨hRead, hMarked, hRenamable, hBare, hChecked, ?_⟩
  intro f hMem hName
  exact (isFieldName_of_validate hValid hRead hMem hName).2

namespace MarkedTemplate

variable {raw : Text}
variable {tokens out : List Token}

/- A field that takes colour goes by its own name. -/
theorem mem_names_of_marked
    {names : List Text}
    (hTemplate : MarkedTemplate names raw tokens out)
    {g : Field}
    (hMem : Token.field g ∈ tokens)
    (hRole : g.role = .marked) :
    g.name ∈ names :=
  name_mem_of_marked hTemplate.known hMem hRole

/- With colour on or off, only the markers differ from no colour. -/
theorem markersShown
    {renderer : Renderer}
    {record : Record}
    (hTemplate :
      MarkedTemplate (intrinsicNames ++ renderer.defaults.keys)
        raw tokens out)
    (hKeys : renderer.UnmarkedKeys record)
    (hPalettes : renderer.EscapePalettes)
    (level : Level)
    (color : Bool) :
    MarkersShown (AllowedMark color)
      (renderer.table level record color).get?
      (renderer.table level record false).get?
      out where
  alike := by
    intro f piece hMem hOwn hPiece name hName
    have hKept :
        Token.field f ∈
          out.filter (fun token => !token.isMarker) := by
      rw [List.mem_filter, Token.isMarker_field, hOwn]
      exact ⟨hMem, rfl⟩
    rw [hTemplate.marked.filter_isMarker hTemplate.renamable,
      List.mem_map] at hKept
    rcases hKept with ⟨token, hToken, hSame⟩
    have hOrigin := (List.mem_filter.mp hToken).1
    have hSpec :
        ∀ spec ∈ f.effectiveSpec, isSpecText spec = true := by
      cases token with
      | literal text => cases hSame
      | field g =>
          cases hSame
          rw [Field.effectiveSpec_renamed]
          exact
            ((Field.check_eq_ok_iff g).mp
              (hTemplate.checked g hOrigin)).2.2
    exact
      Renderer.get?_table_of_not_isMarker
        (isMarker_of_mem_names hPiece hOwn hSpec name
          hName)
        level color
  shown := by
    intro f hMem hMarker
    have hMarkerOf :=
      hTemplate.marked.markerOf hTemplate.renamable
        hTemplate.bare hMem hMarker
    rcases hMarkerOf.named with
      ⟨g, hOrigin, hRole, side, hName⟩
    refine
      ⟨hMarkerOf.conversion, hMarkerOf.spec,
        renderer.markText level color side g.name, ?_, ?_⟩
    · exact
        Renderer.allowedMark_markText hPalettes level color side
          g.name
    · rw [hName]
      exact
        Renderer.get?_table_marker hKeys
          (hTemplate.mem_names_of_marked hOrigin hRole)
          level color side

/- Without its markers it is the plain template of the slot. -/
theorem plainTemplate_eq_ok
    {names : List Text}
    (hTemplate : MarkedTemplate names raw tokens out)
    {visible : List Segment}
    (hVisible :
      readSegments
          (out.filter (fun token => !token.isMarker)) =
        .ok visible)
    (slot : Slot) :
    Settings.plainTemplate slot raw =
      .ok
        ⟨unparse (out.filter (fun token => !token.isMarker)),
          visible⟩ := by
  have hTokens :
      (tokens.filter Token.isVisible).map Token.uncolored =
        out.filter (fun token => !token.isMarker) := by
    rw [hTemplate.marked.filter_isMarker hTemplate.renamable]
    congr 1
    apply List.filter_congr
    intro token hMem
    exact
      Token.isVisible_eq_not_isBoundary
        (hTemplate.renamable token hMem).plain
  have hStrip :
      stripColor raw =
        .ok
          (unparse
            (out.filter (fun token => !token.isMarker))) := by
    rw [stripColor_eq_ok_iff]
    exact ⟨tokens, hTemplate.read, by rw [hTokens]⟩
  have hReadable :
      ∀ token ∈ out.filter (fun token => !token.isMarker),
        token.Readable := by
    intro token hMem
    exact
      hTemplate.marked.readable hTemplate.renamable token
        (List.mem_filter.mp hMem).1
  unfold Settings.plainTemplate
  rw [hStrip]
  show Settings.parseTemplate slot raw _ = _
  unfold Settings.parseTemplate
  rw [Template.parse_unparse hReadable, hVisible]
  rfl

end MarkedTemplate

end LogLine
