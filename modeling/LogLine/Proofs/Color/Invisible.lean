import LogLine.Proofs.Color.MarkedTemplate
import LogLine.Proofs.Rendering.Line

/-
  Colour changes nothing of a line that can be seen.

  Key definitions include:
    * `LogLine.TemplatePair`
    * `LogLine.Settings.withColor`
    * `LogLine.Settings.Plain`

  Key theorems include:
    * `LogLine.Renderer.render_fst_of_blockless`
    * `LogLine.Renderer.render_agree`
    * `LogLine.Settings.exists_templatePairs`
    * `LogLine.Settings.build_withColor`
    * `LogLine.color_keeps_visible_line`

  Settings that differ in colour only give renderers that share
  the templates with markers, and all but the ones with backups
  fill those in.  So each of them is compared with the one that
  fills in the templates without markers.
-/

------------------------------------------------------------
-- Lines without Failures
------------------------------------------------------------

namespace LogLine

namespace Renderer

/- Without a failure and a stack a line is its template alone. -/
theorem render_fst_of_blockless
    {renderer : Renderer}
    {record : Record}
    {color : Bool}
    (hMode : renderer.colorMode = .ok color)
    (hFailure : record.failure = none)
    (hStack : record.stackInfo = none) :
    (renderer.render record).1 =
      (renderer.templateFor color record.level).render
        (renderer.filledTable color record).get? := by
  have hBlock : renderer.failureBlock color record = [] := by
    unfold failureBlock Record.failureTextWith
    rw [hFailure]
    rfl
  rw [render_fst hMode, hBlock, hStack]
  cases (renderer.templateFor color record.level).render
      (renderer.filledTable color record).get? with
  | error fault => rfl
  | ok line => rfl

end Renderer

end LogLine

------------------------------------------------------------
-- Templates in Pairs
------------------------------------------------------------

namespace LogLine

/- The templates of one raw text, with its markers and without. -/
inductive TemplatePair
    (names : List Text) :
    Template → Template → Prop where
  | intro
      {raw : Text}
      {tokens out : List Token}
      {segments visible : List Segment}
      (hTemplate : MarkedTemplate names raw tokens out)
      (hRead : readSegments out = .ok segments)
      (hVisible :
        readSegments
            (out.filter (fun token => !token.isMarker)) =
          .ok visible) :
      TemplatePair names
        ⟨unparse out, segments⟩
        ⟨unparse (out.filter (fun token => !token.isMarker)),
          visible⟩

namespace TemplatePair

/- Both refer to the same fields, markers apart. -/
theorem references_eq
    {names : List Text}
    {marked plain : Template}
    (hPair : TemplatePair names marked plain)
    {name : Text}
    (hName : isMarker name = false) :
    marked.references name = plain.references name := by
  cases hPair with
  | intro hTemplate hRead hVisible =>
      exact references_iff_of_filter hRead hVisible hName _ _

/- Filled in, they give the same text or fail alike. -/
theorem render_agree
    {renderer : Renderer}
    {marked plain : Template}
    (hPair :
      TemplatePair (intrinsicNames ++ renderer.defaults.keys)
        marked plain)
    {record : Record}
    (hKeys : renderer.UnmarkedKeys record)
    (hPalettes : renderer.EscapePalettes)
    (level : Level)
    (color : Bool) :
    Agree (Inserted (AllowedMark color))
      (marked.render (renderer.table level record color).get?)
      (plain.render
        (renderer.table level record false).get?) := by
  cases hPair with
  | intro hTemplate hRead hVisible =>
      have hShown :=
        hTemplate.markersShown hKeys hPalettes level color
      rw [Template.render, Template.render,
        renderSegments_eq_fillTokens hRead,
        renderSegments_eq_fillTokens hVisible]
      exact fillTokens_agree hShown

end TemplatePair

/-
  A renderer agrees with one without colour that shares all
  but the templates without markers.
-/
theorem Renderer.render_agree
    {renderer other : Renderer}
    {record : Record}
    {color : Bool}
    (hOther :
      other =
        { renderer with
          backup := other.backup
          forceColor := other.forceColor
          supportsColor := other.supportsColor })
    (hMode : renderer.colorMode = .ok color)
    (hOff : other.colorMode = .ok false)
    (hPair :
      TemplatePair (intrinsicNames ++ renderer.defaults.keys)
        (renderer.templateFor color record.level)
        (other.templateFor false record.level))
    (hPalettes : renderer.EscapePalettes)
    (hKeys : renderer.UnmarkedKeys record)
    (hFailure : record.failure = none)
    (hStack : record.stackInfo = none) :
    Agree (Inserted (AllowedMark color))
      (renderer.render record).1
      (other.render record).1 := by
  have hTable :
      ∀ (filled : Record),
        other.table record.level filled false =
          renderer.table record.level filled false := by
    rw [hOther]
    exact fun filled => rfl
  -- Neither template refers to the time if the other does not.
  have hTime :
      other.withTime (other.templateFor false record.level)
          record =
        renderer.withTime
          (renderer.templateFor color record.level) record := by
    unfold withTime
    rw [hPair.references_eq (by decide +kernel), hOther]
  rw [render_fst_of_blockless hMode hFailure hStack,
    render_fst_of_blockless hOff hFailure hStack]
  unfold filledTable
  rw [hTable, hTime]
  refine hPair.render_agree ?_ hPalettes record.level color
  rcases renderer.withTime_cases
      (renderer.templateFor color record.level) record with
    ⟨timeText, timeCalls, hFilled⟩
  rw [hFilled]
  exact ⟨hKeys.defaults, hKeys.extras⟩

end LogLine

------------------------------------------------------------
-- Settings with Colour Decided
------------------------------------------------------------

namespace LogLine

namespace Settings

/- The settings with the choices that decide about colour. -/
def withColor
    (settings : Settings)
    (derive force supported : Bool) :
    Settings :=
  { settings with
    deriveBackup := derive
    forceColor := force
    supportsColor := some supported }

variable {settings : Settings}
variable {parts : Parts}

theorem escapePalettes_of_passed
    (hPassed : settings.Passed parts)
    (other : Settings)
    (backup : Option (Level → Option Template)) :
    (other.assemble { parts with backup }).EscapePalettes := by
  intro field palette hMem level
  have hPalettes := hPassed.palettes
  unfold buildPalettes at hPalettes
  rw [bind_eq_ok_iff] at hPalettes
  rcases hPalettes with ⟨pairs, hPairs, hParts⟩
  have hEntries : Dict.ofList pairs = parts.palettes :=
    Except.ok.inj hParts
  have hEntry : (field, palette) ∈ parts.palettes.entries := hMem
  rw [← hEntries] at hEntry
  rcases exists_of_mem_mapM hPairs
      (Dict.mem_of_mem_entries_ofList hEntry) with
    ⟨⟨name, colors⟩, -, hPair⟩
  simp only [bind_eq_ok_iff] at hPair
  rcases hPair with ⟨found, hFound, hSame⟩
  cases hSame
  unfold Settings.palette at hFound
  by_cases hKnown :
      field ∈ intrinsicNames ∨ settings.defaults.contains field
  · rw [if_pos hKnown, mapError_eq_ok_iff] at hFound
    exact Palette.escapeRun_enter hFound level
  · rw [if_neg hKnown] at hFound
    cases hFound

/-
  The requirements on templates and defaults: no default key
  holds a brace, and group fields are bare.
-/
structure Plain
    (settings : Settings) : Prop where
  unbraced :
    ∀ key ∈ settings.defaults.keys, ∀ c ∈ key,
      isBrace c = false
  unmarked :
    ∀ key ∈ settings.defaults.keys, isMarker key = false
  groups :
    ∀ entry ∈ settings.templates.slots,
      ∀ token ∈ (scan entry.2).tokens, token.BareBoundary

/-
  The templates without markers can be made too, and at every
  level they form pairs with those that have them.
-/
theorem exists_templatePairs
    (hPassed : settings.Passed parts)
    (hPlain : settings.Plain) :
    ∃ plain,
      settings.templates.tryMap plainTemplate = .ok plain ∧
      ∀ level,
        ∃ template,
          plain.get? level = some template ∧
            TemplatePair
              (intrinsicNames ++ settings.defaults.keys)
              (parts.color level) template := by
  -- A level's two templates are found apart from each other, so
  -- the one without markers is known for any slot with its text.
  have hSlot :
      ∀ slot raw template,
        settings.templates.stored? slot = some raw →
        colorTemplate slot raw = .ok template →
          ∃ other,
            (∀ second, plainTemplate second raw = .ok other) ∧
              TemplatePair
                (intrinsicNames ++ settings.defaults.keys)
                template other := by
    intro slot raw template hStored hColor
    have hValid :=
      validate_of_checkTemplates hPassed.templates hStored
    have hBare :=
      hPlain.groups (slot, raw)
        ((LevelMap.mem_slots_iff _ slot raw).mpr hStored)
    rcases exists_markedTemplate hPlain.unbraced hValid hBare
        hColor with
      ⟨tokens, out, segments, hTemplate, hRead, rfl⟩
    rcases exists_readSegments_filter hRead
        (fun token => !token.isMarker) with
      ⟨visible, hVisible⟩
    exact
      ⟨_, hTemplate.plainTemplate_eq_ok hVisible,
        .intro hTemplate hRead hVisible⟩
  have hCompiled := LevelMap.changed_of_tryMap hPassed.compiled
  have hAll :
      ∀ slot raw,
        settings.templates.stored? slot = some raw →
          ∃ other, plainTemplate slot raw = .ok other := by
    intro slot raw hStored
    have hHere := hCompiled slot
    rw [hStored] at hHere
    rcases hHere with ⟨template, hColor, -⟩
    rcases hSlot slot raw template hStored hColor with
      ⟨other, hOther, -⟩
    exact ⟨other, hOther slot⟩
  rcases LevelMap.exists_tryMap hAll with ⟨plain, hMap⟩
  refine ⟨plain, hMap, ?_⟩
  intro level
  rcases LevelMap.exists_get?_of_firstMissing? hPassed.complete
      level with
    ⟨raw, hRaw⟩
  rcases hCompiled.get? hRaw with
    ⟨slot, template, hStored, hColor, hHere⟩
  rcases (LevelMap.changed_of_tryMap hMap).get? hRaw with
    ⟨second, found, -, hFound, hThere⟩
  rcases hSlot slot raw template hStored hColor with
    ⟨other, hOther, hPair⟩
  have hLevel :=
    LevelMap.get?_of_resolved hPassed.color level
  rw [hHere, Option.some.injEq] at hLevel
  rw [hOther second, Except.ok.injEq] at hFound
  rw [← hFound] at hThere
  exact ⟨other, hThere, hLevel ▸ hPair⟩

/- The renderer of the settings once colour is decided. -/
def variant
    (settings : Settings)
    (parts : Parts)
    (plain : LevelMap Template)
    (derive force supported : Bool) :
    Renderer :=
  (settings.withColor derive force supported).assemble
    { parts with
      backup := if derive then some plain.get? else none }

/- The settings pass whatever is decided about colour. -/
theorem build_withColor
    (hPassed : settings.Passed parts)
    (hBackups : settings.backups = none)
    {plain : LevelMap Template}
    (hMap :
      settings.templates.tryMap plainTemplate = .ok plain)
    (derive force supported : Bool) :
    (settings.withColor derive force supported).build =
      .ok (settings.variant parts plain derive force supported)
      := by
  have hBackup :
      (settings.withColor derive force supported).buildBackup =
        .ok (if derive then some plain.get? else none) := by
    unfold buildBackup backupSource withColor
    rw [hBackups]
    cases derive with
    | false => rfl
    | true =>
        simp only [if_true, hMap]
        rfl
  rw [build_eq_ok_iff]
  refine ⟨_, ?_, rfl⟩
  exact
    { complete := hPassed.complete
      templates := hPassed.templates
      backups := hPassed.backups
      palettes := hPassed.palettes
      datePattern := hPassed.datePattern
      compiled := hPassed.compiled
      color := hPassed.color
      backup := hBackup }

/-
  Where a renderer fills in the template with markers, it
  agrees with the one that has backups and no colour.
-/
theorem variant_agree
    (hPassed : settings.Passed parts)
    (hPlain : settings.Plain)
    {plain : LevelMap Template}
    {template : Template}
    {record : Record}
    (hLevel : plain.get? record.level = some template)
    (hPair :
      TemplatePair (intrinsicNames ++ settings.defaults.keys)
        (parts.color record.level) template)
    (derive force supported : Bool)
    {color : Bool}
    (hColor : (force || supported) = color)
    (hOwn :
      (settings.variant parts plain derive force
          supported).templateFor color record.level =
        parts.color record.level)
    (hFailure : record.failure = none)
    (hStack : record.stackInfo = none)
    (hExtras :
      ∀ key ∈ record.extras.keys, isMarker key = false) :
    Agree (Inserted (AllowedMark color))
      ((settings.variant parts plain derive force
        supported).render record).1
      ((settings.variant parts plain true false
        false).render record).1 := by
  have hBackup :
      (settings.variant parts plain true false
          false).templateFor false record.level =
        template := by
    show (plain.get? record.level).getD _ = template
    rw [hLevel, Option.getD_some]
  refine
    Renderer.render_agree rfl (congrArg Except.ok hColor) rfl
      ?_ ?_ ⟨hPlain.unmarked, hExtras⟩ hFailure hStack
  · rw [hOwn, hBackup]
    exact hPair
  · exact escapePalettes_of_passed hPassed _ _

end Settings

end LogLine

------------------------------------------------------------
-- Lines with and without Colour
------------------------------------------------------------

namespace LogLine

/-
  With colour off, derived backups change no line; with colour
  on, a line fails alike or has nothing but escape sequences
  more.
-/
theorem color_keeps_visible_line
    {settings : Settings}
    {renderer : Renderer}
    (hBuild : settings.build = .ok renderer)
    (hBackups : settings.backups = none)
    (hPlain : settings.Plain) :
    ∃ derived kept,
      (settings.withColor true false false).build =
        .ok derived ∧
      (settings.withColor false false false).build = .ok kept ∧
      ∀ derive force supported,
        (force || supported) = true →
        ∃ colored,
          (settings.withColor derive force supported).build =
            .ok colored ∧
          ∀ record : Record,
            record.failure = none →
            record.stackInfo = none →
            (∀ key ∈ record.extras.keys,
              isMarker key = false) →
            (derived.render record).1 =
              (kept.render record).1 ∧
            (∀ fault,
              (colored.render record).1 = .error fault ↔
                (derived.render record).1 = .error fault) ∧
            ∀ plain,
              (derived.render record).1 = .ok plain →
              ∃ line,
                (colored.render record).1 = .ok line ∧
                  ('\x1b' ∉ plain →
                    deleteEscapes line = plain) := by
  rcases (settings.build_eq_ok_iff renderer).mp hBuild with
    ⟨parts, hPassed, -⟩
  rcases Settings.exists_templatePairs hPassed hPlain with
    ⟨plain, hMap, hPairs⟩
  have hVariant := Settings.build_withColor hPassed hBackups hMap
  refine
    ⟨_, _, hVariant true false false,
      hVariant false false false, ?_⟩
  intro derive force supported hOn
  refine ⟨_, hVariant derive force supported, ?_⟩
  intro record hFailure hStack hExtras
  rcases hPairs record.level with ⟨template, hLevel, hPair⟩
  have hKept :=
    Settings.variant_agree hPassed hPlain hLevel hPair false
      false false rfl rfl hFailure hStack hExtras
  have hColored :=
    Settings.variant_agree hPassed hPlain hLevel hPair derive
      force supported hOn rfl hFailure hStack hExtras
  have hSame :=
    hKept.eq_of_eq fun _ _ hInserted =>
      Inserted.eq_of_empty hInserted
  refine ⟨hSame.symm, hColored.error_iff, ?_⟩
  intro line hLine
  rcases hColored.exists_of_ok hLine with
    ⟨colored, hRender, hInserted⟩
  exact ⟨colored, hRender, hInserted.deleteEscapes⟩

/- A group, and a name that has a colour and a default. -/
def groupSettings : Settings :=
  { Settings.blank with
    templates :=
      LevelMap.uniform
        ("\x7benter\x7d[\x7blevelname:<8\x7d] \x7bname\x7d" ++
          "\x7bexit\x7d \x7buser\x7d: \x7bmessage\x7d").toList
    defaults := Dict.ofList [("user".toList, .none)]
    palettes :=
      Dict.ofList
        [("levelname".toList, Settings.levelColors),
         ("user".toList, Settings.uniformColor "35")] }

/- A record that has a user of its own. -/
def groupRecord : Record :=
  (Record.ofMessage .info "app".toList "ready".toList
    default).insertExtra "user".toList (.str "root".toList)

theorem color_keeps_visible_line_of_group :
    groupSettings.build.isOk = true ∧
    groupSettings.backups = none ∧
    groupSettings.Plain ∧
    ∃ derived kept colored,
      (groupSettings.withColor true false false).build =
        .ok derived ∧
      (groupSettings.withColor false false false).build =
        .ok kept ∧
      (groupSettings.withColor true true false).build =
        .ok colored ∧
      (derived.render groupRecord).1 =
        (kept.render groupRecord).1 ∧
      (∀ fault,
        (colored.render groupRecord).1 = .error fault ↔
          (derived.render groupRecord).1 = .error fault) ∧
      ∀ plain,
        (derived.render groupRecord).1 = .ok plain →
        ∃ line,
          (colored.render groupRecord).1 = .ok line ∧
            ('\x1b' ∉ plain → deleteEscapes line = plain) := by
  have hOk : groupSettings.build.isOk = true := by
    decide +kernel
  have hPlain : groupSettings.Plain :=
    { unbraced := by decide +kernel
      unmarked := by decide +kernel
      groups := by decide +kernel }
  refine ⟨hOk, rfl, hPlain, ?_⟩
  cases hBuild : groupSettings.build with
  | error fault =>
      rw [hBuild] at hOk
      cases hOk
  | ok renderer =>
      rcases color_keeps_visible_line hBuild rfl hPlain with
        ⟨derived, kept, hDerived, hKept, hColored⟩
      rcases hColored true true false rfl with
        ⟨colored, hOn, hLines⟩
      have hLine :=
        hLines groupRecord rfl rfl (by decide +kernel)
      exact
        ⟨derived, kept, colored, hDerived, hKept, hOn, hLine⟩

end LogLine
