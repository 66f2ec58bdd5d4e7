import LogLine.Proofs.Settings
import LogLine.Proofs.Template.Filling
import LogLine.Proofs.Template.Validated

/-
  Templates of a renderer have known names: those that the
  check allows, and the markers named after them.

  Key definitions include:
    * `LogLine.KnownName`
    * `LogLine.KnownTemplate`

  Key theorems include:
    * `LogLine.MarkedUp.knownName`
    * `LogLine.exists_knownTemplate_of_colorTemplate`
    * `LogLine.exists_knownTemplate_of_plainTemplate`
    * `LogLine.Settings.exists_knownTemplate`
-/

------------------------------------------------------------
-- Known Names
------------------------------------------------------------

namespace LogLine

/- A name, or a marker of it. -/
inductive KnownName
    (names : List Text) : Text → Prop where
  | own
      {name : Text}
      (hName : name ∈ names) :
      KnownName names name
  | marker
      {name : Text}
      (hName : name ∈ names)
      (side : SpanSide) :
      KnownName names (side.marker name)

theorem unbraced_of_mem_intrinsicNames :
    ∀ name ∈ intrinsicNames, ∀ c ∈ name,
      isBrace c = false := by
  decide

/- Markers add no brace to a name. -/
theorem KnownName.unbraced
    {names : List Text}
    {name : Text}
    (hKnown : KnownName names name)
    (hUnbraced :
      ∀ own ∈ names, ∀ c ∈ own, isBrace c = false) :
    ∀ c ∈ name, isBrace c = false := by
  have hMarker :
      ∀ own ∈ names, ∀ suffix : Char, isBrace suffix = false →
        ∀ c ∈ own ++ [suffix], isBrace c = false := by
    intro own hOwn suffix hSuffix
    rw [List.forall_mem_append, List.forall_mem_singleton]
    exact ⟨hUnbraced own hOwn, hSuffix⟩
  cases hKnown with
  | own hName => exact hUnbraced name hName
  | marker hName side =>
      cases side with
      | enter => exact hMarker _ hName enterSuffix rfl
      | exit => exact hMarker _ hName exitSuffix rfl

/- A field without its underscore has a known name, or none. -/
theorem KnownName.of_uncolored
    {names : List Text}
    {tokens : List Token}
    (hKnown :
      ∀ f, Token.field f ∈ tokens → f.name ≠ [] →
        f.bareName ∈ names)
    {token : Token}
    (hMem : token ∈ tokens)
    {f : Field}
    (hField : Token.field f = token.uncolored)
    (hName : f.name ≠ []) :
    KnownName names f.name := by
  cases token with
  | literal text => cases hField
  | field g =>
      cases hField
      apply KnownName.own
      apply hKnown g hMem
      intro hEmpty
      apply hName
      show g.name.dropInitial '_' = []
      rw [hEmpty]
      rfl

/- A field that takes colour goes by its own name. -/
theorem name_mem_of_marked
    {names : List Text}
    {raw : List Token}
    (hKnown :
      ∀ f, Token.field f ∈ raw → f.name ≠ [] →
        f.bareName ∈ names)
    {g : Field}
    (hMem : Token.field g ∈ raw)
    (hRole : g.role = .marked) :
    g.name ∈ names := by
  rcases Field.bareName_of_marked hRole with ⟨hName, hBare⟩
  have hOwn := hKnown g hMem hName
  rw [Field.bareName, hBare] at hOwn
  exact hOwn

/- Markers are named after fields that take colour. -/
theorem MarkedUp.knownName
    {names : List Text}
    {raw out : List Token}
    (hMarked : MarkedUp raw out)
    (hKnown :
      ∀ f, Token.field f ∈ raw → f.name ≠ [] →
        f.bareName ∈ names) :
    ∀ f, Token.field f ∈ out → f.name ≠ [] →
      KnownName names f.name := by
  induction hMarked with
  | nil => simp
  | @copied token raw out _ _ _ ih =>
      intro f hMem hName
      rcases List.mem_cons.mp hMem with hFirst | hRest
      · exact
          KnownName.of_uncolored hKnown List.mem_cons_self hFirst
            hName
      · refine ih ?_ f hRest hName
        intro g hLater
        exact hKnown g (List.mem_cons_of_mem token hLater)
  | @single g raw out hRole _ ih =>
      intro f hMem hName
      have hOwn := name_mem_of_marked hKnown List.mem_cons_self hRole
      simp only [List.mem_cons] at hMem
      rcases hMem with hOpener | hShown | hCloser | hRest
      · cases hOpener
        exact KnownName.marker hOwn .enter
      · exact
          KnownName.of_uncolored hKnown List.mem_cons_self hShown
            hName
      · cases hCloser
        exact KnownName.marker hOwn .exit
      · refine ih ?_ f hRest hName
        intro other hLater
        exact hKnown other (List.mem_cons_of_mem _ hLater)
  | @group enter exit name inside raw out _ _ _ hGroup _ ih =>
      intro f hMem hName
      rcases List.exists_of_findSome?_eq_some hGroup with
        ⟨token, hToken, hColor⟩
      rcases Token.exists_marked_of_colorName? hColor with
        ⟨first, rfl, hRole, rfl⟩
      have hOwn :=
        name_mem_of_marked hKnown (by simp [hToken]) hRole
      simp only [List.mem_cons, List.mem_append] at hMem
      rcases hMem with hOpener | hInside | hCloser | hRest
      · cases hOpener
        exact KnownName.marker hOwn .enter
      · rcases List.mem_map.mp hInside with
          ⟨other, hOther, hShown⟩
        exact
          KnownName.of_uncolored hKnown (by simp [hOther])
            hShown.symm hName
      · cases hCloser
        exact KnownName.marker hOwn .exit
      · refine ih ?_ f hRest hName
        intro other hLater
        exact hKnown other (by simp [hLater])

end LogLine

------------------------------------------------------------
-- Templates of Slots
------------------------------------------------------------

namespace LogLine

namespace Settings

/- A template that is read from tokens consists of their pieces. -/
theorem parseTemplate_unparse
    {tokens : List Token}
    (hReadable : ∀ token ∈ tokens, token.Readable)
    {slot : Slot}
    {raw : Text}
    {template : Template}
    (hParse :
      parseTemplate slot raw (unparse tokens) = .ok template) :
    readSegments tokens = .ok template.segments ∧
      template.source = unparse tokens := by
  unfold parseTemplate at hParse
  rw [mapError_eq_ok_iff, Template.parse_unparse hReadable]
    at hParse
  cases hPieces : readSegments tokens with
  | error fault =>
      rw [hPieces] at hParse
      cases hParse
  | ok segments =>
      rw [hPieces] at hParse
      cases hParse
      exact ⟨rfl, rfl⟩

theorem colorTemplate_eq_ok
    {slot : Slot}
    {raw : Text}
    {template : Template}
    (hTemplate : colorTemplate slot raw = .ok template) :
    ∃ tokens out,
      tokenize raw = .ok tokens ∧
      MarkedUp tokens out ∧
      parseTemplate slot raw (unparse out) = .ok template := by
  unfold colorTemplate at hTemplate
  rw [bind_eq_ok_iff] at hTemplate
  rcases hTemplate with ⟨compiled, hCompile, hParse⟩
  rw [mapError_eq_ok_iff] at hCompile
  rcases (compile_eq_ok_iff raw compiled).mp hCompile with
    ⟨tokens, out, hRead, hMarked, rfl⟩
  exact ⟨tokens, out, hRead, hMarked, hParse⟩

theorem plainTemplate_eq_ok
    {slot : Slot}
    {raw : Text}
    {template : Template}
    (hTemplate : plainTemplate slot raw = .ok template) :
    ∃ tokens,
      tokenize raw = .ok tokens ∧
      parseTemplate slot raw
          (unparse
            ((tokens.filter Token.isVisible).map
              Token.uncolored)) =
        .ok template := by
  unfold plainTemplate at hTemplate
  rw [bind_eq_ok_iff] at hTemplate
  rcases hTemplate with ⟨stripped, hStrip, hParse⟩
  rw [mapError_eq_ok_iff] at hStrip
  rcases (stripColor_eq_ok_iff raw stripped).mp hStrip with
    ⟨tokens, hRead, rfl⟩
  exact ⟨tokens, hRead, hParse⟩

end Settings

end LogLine

------------------------------------------------------------
-- Known Templates
------------------------------------------------------------

namespace LogLine

/-
  A template that reads as some tokens, all of whose names are
  known; a field can also have no name.
-/
structure KnownTemplate
    (names : List Text)
    (template : Template)
    (tokens : List Token) : Prop where
  source : template.source = unparse tokens
  readable : ∀ token ∈ tokens, token.Readable
  pieces : readSegments tokens = .ok template.segments
  known :
    ∀ f,
      Token.field f ∈ tokens → f.name ≠ [] →
        KnownName names f.name

section Checked

variable {raw : Text}
variable {extra : List Text}
variable {slot : Slot}
variable {template : Template}

theorem exists_knownTemplate_of_colorTemplate
    (hBalanced :
      ∀ name ∈ intrinsicNames ++ extra, BracesBalanced name)
    (hValid : validate raw intrinsicNames extra = .ok ())
    (hTemplate :
      Settings.colorTemplate slot raw = .ok template) :
    ∃ tokens,
      KnownTemplate (intrinsicNames ++ extra) template tokens := by
  rcases Settings.colorTemplate_eq_ok hTemplate with
    ⟨tokens, out, hRead, hMarked, hParse⟩
  have hReadable :=
    hMarked.readable_of_writable
      (writable_of_validate hBalanced hValid hRead)
  rcases Settings.parseTemplate_unparse hReadable hParse with
    ⟨hPieces, hSource⟩
  refine ⟨out, hSource, hReadable, hPieces, ?_⟩
  apply hMarked.knownName
  intro f hMem hName
  exact (isFieldName_of_validate hValid hRead hMem hName).2

theorem exists_knownTemplate_of_plainTemplate
    (hBalanced :
      ∀ name ∈ intrinsicNames ++ extra, BracesBalanced name)
    (hValid : validate raw intrinsicNames extra = .ok ())
    (hTemplate :
      Settings.plainTemplate slot raw = .ok template) :
    ∃ tokens,
      KnownTemplate (intrinsicNames ++ extra) template tokens := by
  rcases Settings.plainTemplate_eq_ok hTemplate with
    ⟨tokens, hRead, hParse⟩
  have hWritable := writable_of_validate hBalanced hValid hRead
  have hReadable :
      ∀ token ∈
        (tokens.filter Token.isVisible).map Token.uncolored,
        token.Readable := by
    rw [List.forall_mem_map]
    intro token hMem
    exact
      (hWritable token
        (List.mem_filter.mp hMem).1).readable_uncolored
  rcases Settings.parseTemplate_unparse hReadable hParse with
    ⟨hPieces, hSource⟩
  refine ⟨_, hSource, hReadable, hPieces, ?_⟩
  intro f hMem hName
  rcases List.mem_map.mp hMem with ⟨token, hToken, hShown⟩
  refine
    KnownName.of_uncolored ?_ (List.mem_filter.mp hToken).1
      hShown.symm hName
  intro g hOwn hOwnName
  exact (isFieldName_of_validate hValid hRead hOwn hOwnName).2

end Checked

namespace Settings

/- Backups are made of texts that are checked as well. -/
theorem backup_cases
    {settings : Settings}
    {parts : Parts}
    (hPassed : settings.Passed parts) :
    parts.backup = none ∨
    ∃ raws plain,
      settings.checkTemplates raws = .ok () ∧
      raws.tryMap plainTemplate = .ok plain ∧
      parts.backup = some plain.get? := by
  rcases settings.backupSource_cases with
    ⟨backups, hBackups, hSource⟩ | ⟨-, -, hSource⟩ |
      ⟨-, -, hSource⟩
  · rcases hPassed.exists_backup hSource with
      ⟨plain, hPlain, hParts⟩
    exact
      Or.inr
        ⟨backups, plain, hPassed.backups backups hBackups,
          hPlain, hParts⟩
  · rcases hPassed.exists_backup hSource with
      ⟨plain, hPlain, hParts⟩
    exact
      Or.inr
        ⟨_, plain, hPassed.templates, hPlain, hParts⟩
  · exact Or.inl (hPassed.backup_eq_none hSource)

/- The templates with markers have known names. -/
theorem exists_knownTemplate_color
    {settings : Settings}
    {parts : Parts}
    (hPassed : settings.Passed parts)
    (hNames :
      ∀ name ∈ intrinsicNames ++ settings.defaults.keys,
        BracesBalanced name)
    (level : Level) :
    ∃ tokens,
      KnownTemplate (intrinsicNames ++ settings.defaults.keys)
        (parts.color level) tokens := by
  rcases (LevelMap.changed_of_tryMap
      hPassed.compiled).exists_of_get?
      (LevelMap.get?_of_resolved hPassed.color level) with
    ⟨slot, raw, hStored, hTemplate⟩
  exact
    exists_knownTemplate_of_colorTemplate hNames
      (validate_of_checkTemplates hPassed.templates hStored)
      hTemplate

/- Whatever template a renderer selects has known names. -/
theorem exists_knownTemplate
    {settings : Settings}
    {renderer : Renderer}
    (hBuild : settings.build = .ok renderer)
    (hBalanced :
      ∀ key ∈ settings.defaults.keys, BracesBalanced key)
    (color : Bool)
    (level : Level) :
    ∃ tokens,
      KnownTemplate (intrinsicNames ++ settings.defaults.keys)
        (renderer.templateFor color level) tokens := by
  rcases (build_eq_ok_iff settings renderer).mp hBuild with
    ⟨parts, hPassed, rfl⟩
  have hNames :
      ∀ name ∈ intrinsicNames ++ settings.defaults.keys,
        BracesBalanced name := by
    rw [List.forall_mem_append]
    refine ⟨?_, hBalanced⟩
    intro name hName
    exact
      braceDepth_of_plain
        (unbraced_of_mem_intrinsicNames name hName) 0
  have hColor := exists_knownTemplate_color hPassed hNames level
  cases color with
  | true => exact hColor
  | false =>
      unfold Renderer.templateFor assemble
      rcases backup_cases hPassed with
        hNone | ⟨raws, plain, hChecked, hPlain, hSome⟩
      · rw [hNone]
        exact hColor
      · rw [hSome]
        show ∃ tokens, KnownTemplate _
          ((plain.get? level).getD (parts.color level)) tokens
        cases hLevel : plain.get? level with
        | none => exact hColor
        | some template =>
            rcases (LevelMap.changed_of_tryMap
                hPlain).exists_of_get? hLevel with
              ⟨slot, raw, hStored, hTemplate⟩
            exact
              exists_knownTemplate_of_plainTemplate hNames
                (validate_of_checkTemplates hChecked hStored)
                hTemplate

end Settings

end LogLine
