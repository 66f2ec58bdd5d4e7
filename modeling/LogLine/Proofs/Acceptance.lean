import LogLine.Proofs.Dict
import LogLine.Proofs.Rendering.Line
import LogLine.Proofs.Settings
import LogLine.Proofs.Time.Pattern

/-
  Which settings make a renderer, and with which text the lines
  of a level are then written.

  Key definitions include:
    * `LogLine.Settings.Acceptable`
    * `LogLine.Settings.writtenText?`

  Key theorems include:
    * `LogLine.Settings.exists_build_iff`
    * `LogLine.Settings.exists_select_of_build`
    * `LogLine.build_accepts_and_selects`
-/

------------------------------------------------------------
-- Acceptable Settings
------------------------------------------------------------

namespace LogLine

/- Every stored text can be changed into one that reads. -/
def LevelMap.ReadsAfter
    {ε : Type}
    (pass : Text → Except ε Text)
    (raws : LevelMap Text) : Prop :=
  ∀ slot raw,
    raws.stored? slot = some raw →
      ∃ text template,
        pass raw = .ok text ∧ Template.parse text = .ok template

namespace Settings

/- Every stored text uses nothing but known names, and well. -/
def Validates
    (settings : Settings)
    (raws : LevelMap Text) : Prop :=
  ∀ slot raw,
    raws.stored? slot = some raw →
      validate raw intrinsicNames settings.defaults.keys = .ok ()

/-
  Settings without a fault.  Backups count with all slots, even
  with those that no level uses.
-/
structure Acceptable
    (settings : Settings) : Prop where
  complete :
    ∀ level, ∃ raw, settings.templates.get? level = some raw
  templates : settings.Validates settings.templates
  backups :
    ∀ backups ∈ settings.backups, settings.Validates backups
  paletteNames :
    ∀ field colors,
      settings.palettes.get? field = some colors →
        field ∈ intrinsicNames ∨ field ∈ settings.defaults.keys
  paletteColors :
    ∀ field colors,
      settings.palettes.get? field = some colors →
        ∃ palette, Palette.ofColors colors = .ok palette
  datePattern :
    ∀ pattern ∈ settings.datePattern,
      ∃ items, TimePattern.Reads pattern items
  marked : settings.templates.ReadsAfter compile
  plainBackups :
    ∀ backups ∈ settings.backups, backups.ReadsAfter stripColor
  plainTemplates :
    settings.backups = none →
      settings.deriveBackup = true →
        settings.templates.ReadsAfter stripColor

end Settings

end LogLine

------------------------------------------------------------
-- Stages
------------------------------------------------------------

namespace LogLine

namespace Settings

theorem checkTemplates_eq_ok_iff
    (settings : Settings)
    (raws : LevelMap Text) :
    settings.checkTemplates raws = .ok () ↔
      settings.Validates raws := by
  constructor
  · intro hChecked slot raw hStored
    exact validate_of_checkTemplates hChecked hStored
  · intro hValid
    unfold checkTemplates
    rw [forM_eq_ok_iff]
    rintro ⟨slot, raw⟩ hMem
    rw [LevelMap.mem_slots_iff] at hMem
    exact (mapError_eq_ok_iff _ _ _).mpr (hValid slot raw hMem)

theorem exists_palette_iff
    (settings : Settings)
    (field : Text)
    (colors : LevelMap Color) :
    (∃ palette, settings.palette field colors = .ok palette) ↔
      (field ∈ intrinsicNames ∨
        field ∈ settings.defaults.keys) ∧
      ∃ palette, Palette.ofColors colors = .ok palette := by
  unfold palette
  by_cases hKnown :
      field ∈ intrinsicNames ∨ field ∈ settings.defaults.keys
  · have hFound :
        field ∈ intrinsicNames ∨
          settings.defaults.contains field = true := by
      rw [Dict.contains_iff_mem_keys]
      exact hKnown
    rw [if_pos hFound]
    simp only [mapError_eq_ok_iff]
    exact ⟨fun hColors => ⟨hKnown, hColors⟩, fun h => h.2⟩
  · have hMissed :
        ¬ (field ∈ intrinsicNames ∨
          settings.defaults.contains field = true) := by
      rw [Dict.contains_iff_mem_keys]
      exact hKnown
    rw [if_neg hMissed]
    constructor
    · rintro ⟨palette, hUnknown⟩
      cases hUnknown
    · intro hAll
      exact absurd hAll.1 hKnown

theorem exists_buildPalettes_iff
    (settings : Settings) :
    (∃ palettes, settings.buildPalettes = .ok palettes) ↔
      ∀ field colors,
        settings.palettes.get? field = some colors →
          ∃ palette,
            settings.palette field colors = .ok palette := by
  have hList :
      (∃ palettes, settings.buildPalettes = .ok palettes) ↔
        ∃ pairs,
          (settings.palettes.entries.mapM fun entry => do
            let palette ← settings.palette entry.1 entry.2
            return (entry.1, palette)) = .ok pairs := by
    unfold buildPalettes
    simp only [bind_eq_ok_iff]
    constructor
    · rintro ⟨palettes, pairs, hPairs, -⟩
      exact ⟨pairs, hPairs⟩
    · rintro ⟨pairs, hPairs⟩
      exact ⟨_, pairs, hPairs, rfl⟩
  rw [hList, exists_mapM_iff]
  simp only [bind_eq_ok_iff, Dict.get?_eq_some_iff]
  constructor
  · intro hAll field colors hMem
    rcases hAll (field, colors) hMem with ⟨_, palette, hPalette, -⟩
    exact ⟨palette, hPalette⟩
  · rintro hAll ⟨field, colors⟩ hMem
    rcases hAll field colors hMem with ⟨palette, hPalette⟩
    exact ⟨_, palette, hPalette, rfl⟩

theorem checkDatePattern_eq_ok_iff
    (settings : Settings) :
    settings.checkDatePattern = .ok () ↔
      ∀ pattern ∈ settings.datePattern,
        ∃ items, TimePattern.Reads pattern items := by
  unfold checkDatePattern
  simp only [← TimePattern.parse?_eq_some_iff]
  cases settings.datePattern with
  | none => simp
  | some pattern =>
      simp only [Option.mem_some_iff, forall_eq',
        ← Option.isSome_iff_exists]
      show (if (TimePattern.parse? pattern).isSome then _ else _) =
        _ ↔ _
      cases TimePattern.parse? pattern with
      | none => simp
      | some items => simp

theorem ReadsPass.exists_tryMap_iff
    {ε : Type}
    {make : Slot → Text → Except SetupError Template}
    {pass : Text → Except ε Text}
    (hMake : ReadsPass make pass)
    (raws : LevelMap Text) :
    (∃ templates, raws.tryMap make = .ok templates) ↔
      raws.ReadsAfter pass := by
  rw [LevelMap.exists_tryMap_iff]
  unfold LevelMap.ReadsAfter
  refine forall₃_congr ?_
  intro slot raw hStored
  simp only [hMake slot raw]
  exact exists_comm

theorem exists_buildBackup_iff
    (settings : Settings) :
    (∃ backup, settings.buildBackup = .ok backup) ↔
      ∀ raws ∈ settings.backupSource,
        raws.ReadsAfter stripColor := by
  unfold buildBackup
  cases settings.backupSource with
  | none => exact ⟨fun _ => by simp, fun _ => ⟨none, rfl⟩⟩
  | some raws =>
      simp only [Option.mem_some_iff, forall_eq', bind_eq_ok_iff,
        ← readsPass_plainTemplate.exists_tryMap_iff]
      constructor
      · rintro ⟨backup, plain, hPlain, -⟩
        exact ⟨plain, hPlain⟩
      · rintro ⟨plain, hPlain⟩
        exact ⟨_, plain, hPlain, rfl⟩

end Settings

end LogLine

------------------------------------------------------------
-- Acceptance
------------------------------------------------------------

namespace LogLine

namespace Settings

theorem Passed.acceptable
    {settings : Settings}
    {parts : Parts}
    (hPassed : settings.Passed parts) :
    settings.Acceptable := by
  have hPalettes :
      ∀ field colors,
        settings.palettes.get? field = some colors →
          (field ∈ intrinsicNames ∨
            field ∈ settings.defaults.keys) ∧
          ∃ palette, Palette.ofColors colors = .ok palette := by
    intro field colors hFound
    rw [← exists_palette_iff]
    exact
      (exists_buildPalettes_iff settings).mp
        ⟨_, hPassed.palettes⟩ field colors hFound
  have hPlain :=
    (exists_buildBackup_iff settings).mp ⟨_, hPassed.backup⟩
  exact {
    complete :=
      LevelMap.exists_get?_of_firstMissing? hPassed.complete
    templates :=
      (checkTemplates_eq_ok_iff settings _).mp hPassed.templates
    backups := fun backups hBackups =>
      (checkTemplates_eq_ok_iff settings _).mp
        (hPassed.backups backups hBackups)
    paletteNames := fun field colors hFound =>
      (hPalettes field colors hFound).1
    paletteColors := fun field colors hFound =>
      (hPalettes field colors hFound).2
    datePattern :=
      (checkDatePattern_eq_ok_iff settings).mp
        hPassed.datePattern
    marked :=
      (readsPass_colorTemplate.exists_tryMap_iff _).mp
        ⟨_, hPassed.compiled⟩
    plainBackups := by
      intro backups hBackups
      apply hPlain
      unfold backupSource
      rw [hBackups]
      rfl
    plainTemplates := by
      intro hNone hDerive
      apply hPlain
      unfold backupSource
      rw [hNone, hDerive]
      rfl }

/-
  Once the templates can be compiled no level misses its own,
  since levels keep the slots that they had.
-/
theorem Acceptable.exists_passed
    {settings : Settings}
    (hAccepted : settings.Acceptable) :
    ∃ parts, settings.Passed parts := by
  have hPalettes :
      ∃ palettes, settings.buildPalettes = .ok palettes := by
    rw [exists_buildPalettes_iff]
    intro field colors hFound
    rw [exists_palette_iff]
    exact
      ⟨hAccepted.paletteNames field colors hFound,
        hAccepted.paletteColors field colors hFound⟩
  have hBackup :
      ∃ backup, settings.buildBackup = .ok backup := by
    rw [exists_buildBackup_iff]
    intro raws hRaws
    rcases settings.backupSource_cases with
      ⟨backups, hBackups, hSource⟩ |
        ⟨hNone, hDerive, hSource⟩ | ⟨-, -, hSource⟩
    · rw [hSource, Option.mem_some_iff] at hRaws
      rw [← hRaws]
      exact hAccepted.plainBackups backups hBackups
    · rw [hSource, Option.mem_some_iff] at hRaws
      rw [← hRaws]
      exact hAccepted.plainTemplates hNone hDerive
    · rw [hSource] at hRaws
      cases hRaws
  rcases hPalettes with ⟨palettes, hPalettes⟩
  rcases hBackup with ⟨backup, hBackup⟩
  rcases (readsPass_colorTemplate.exists_tryMap_iff _).mpr
      hAccepted.marked with
    ⟨compiled, hCompiled⟩
  rcases (LevelMap.changed_of_tryMap hCompiled).exists_resolved
      hAccepted.complete with
    ⟨color, hColor⟩
  exact
    ⟨⟨palettes, compiled, color, backup⟩,
      { complete :=
          (LevelMap.firstMissing?_eq_none_iff _).mpr
            hAccepted.complete
        templates :=
          (checkTemplates_eq_ok_iff settings _).mpr
            hAccepted.templates
        backups := fun backups hBackups =>
          (checkTemplates_eq_ok_iff settings _).mpr
            (hAccepted.backups backups hBackups)
        palettes := hPalettes
        datePattern :=
          (checkDatePattern_eq_ok_iff settings).mpr
            hAccepted.datePattern
        compiled := hCompiled
        color := hColor
        backup := hBackup }⟩

/- A renderer is made of settings exactly if they are acceptable. -/
theorem exists_build_iff
    (settings : Settings) :
    (∃ built, settings.build = .ok built) ↔
      settings.Acceptable := by
  simp only [build_eq_ok_iff]
  constructor
  · rintro ⟨built, parts, hPassed, -⟩
    exact hPassed.acceptable
  · intro hAccepted
    rcases hAccepted.exists_passed with ⟨parts, hPassed⟩
    exact ⟨settings.assemble parts, parts, hPassed, rfl⟩

end Settings

end LogLine

------------------------------------------------------------
-- Texts of Levels
------------------------------------------------------------

namespace LogLine

namespace Settings

/- The text for a level without colour. -/
def uncoloredText?
    (settings : Settings)
    (level : Level)
    (raw : Text) :
    Option Text :=
  match settings.backups with
  | some backups =>
      match backups.get? level with
      | some backup => (stripColor backup).toOption
      | none => (compile raw).toOption
  | none =>
      if settings.deriveBackup then
        (stripColor raw).toOption
      else
        (compile raw).toOption

/-
  The text that the lines of a level are written with: that of
  its template with markers, or one without if there is no
  colour and if there is a text for that.
-/
def writtenText?
    (settings : Settings)
    (color : Bool)
    (level : Level) :
    Option Text := do
  let raw ← settings.templates.get? level
  if color then
    (compile raw).toOption
  else
    settings.uncoloredText? level raw

/- A template that was read has the text it was read from. -/
theorem source_of_parse
    {text : Text}
    {template : Template}
    (hParse : Template.parse text = .ok template) :
    template.source = text := by
  unfold Template.parse at hParse
  rcases (map_eq_ok_iff _ _ _).mp hParse with
    ⟨segments, -, rfl⟩
  rfl

/- The template of a level has the text of the level's own. -/
theorem ReadsPass.exists_source
    {ε : Type}
    {make : Slot → Text → Except SetupError Template}
    {pass : Text → Except ε Text}
    (hMake : ReadsPass make pass)
    {raws : LevelMap Text}
    {templates : LevelMap Template}
    (hMap : raws.tryMap make = .ok templates)
    {level : Level}
    {raw : Text}
    (hRaw : raws.get? level = some raw) :
    ∃ template,
      templates.get? level = some template ∧
        (pass raw).toOption = some template.source := by
  rcases (LevelMap.changed_of_tryMap hMap).get? hRaw with
    ⟨slot, template, -, hTemplate, hValue⟩
  rcases (hMake slot raw template).mp hTemplate with
    ⟨text, hPass, hParse⟩
  refine ⟨template, hValue, ?_⟩
  rw [source_of_parse hParse, hPass]
  rfl

/- The template with markers comes from the level's own text. -/
theorem Passed.compile_eq_source
    {settings : Settings}
    {parts : Parts}
    (hPassed : settings.Passed parts)
    {level : Level}
    {raw : Text}
    (hRaw : settings.templates.get? level = some raw) :
    (compile raw).toOption =
      some (parts.color level).source := by
  rcases readsPass_colorTemplate.exists_source hPassed.compiled
      hRaw with
    ⟨template, hTemplate, hText⟩
  have hColor := LevelMap.get?_of_resolved hPassed.color level
  rw [hColor, Option.some.injEq] at hTemplate
  rw [hTemplate]
  exact hText

theorem Passed.uncoloredText?_eq_source
    {settings : Settings}
    {parts : Parts}
    (hPassed : settings.Passed parts)
    {level : Level}
    {raw : Text}
    (hRaw : settings.templates.get? level = some raw) :
    settings.uncoloredText? level raw =
      some ((settings.assemble parts).templateFor false
        level).source := by
  have hColor := hPassed.compile_eq_source hRaw
  unfold uncoloredText?
  rcases settings.backupSource_cases with
    ⟨backups, hBackups, hSource⟩ |
      ⟨hNone, hDerive, hSource⟩ | ⟨hNone, hDerive, hSource⟩
  · rcases hPassed.exists_backup hSource with
      ⟨plain, hPlain, hParts⟩
    rw [hBackups]
    cases hBackup : backups.get? level with
    | some backup =>
        rcases readsPass_plainTemplate.exists_source hPlain
            hBackup with
          ⟨template, hTemplate, hText⟩
        simp [Renderer.templateFor, assemble, hParts, hTemplate,
          hText, hBackup]
    | none =>
        have hTemplate :=
          (LevelMap.changed_of_tryMap hPlain).get?_eq_none hBackup
        simp [Renderer.templateFor, assemble, hParts, hTemplate,
          hColor, hBackup]
  · rcases hPassed.exists_backup hSource with
      ⟨plain, hPlain, hParts⟩
    rcases readsPass_plainTemplate.exists_source hPlain
        hRaw with
      ⟨template, hTemplate, hText⟩
    simp [Renderer.templateFor, assemble, hNone, hDerive, hParts,
      hTemplate, hText]
  · have hParts := hPassed.backup_eq_none hSource
    simp [Renderer.templateFor, assemble, hNone, hDerive, hParts,
      hColor]

/- What is selected has the text that the settings call for. -/
theorem Passed.writtenText?_eq_source
    {settings : Settings}
    {parts : Parts}
    (hPassed : settings.Passed parts)
    (color : Bool)
    (level : Level) :
    settings.writtenText? color level =
      some ((settings.assemble parts).templateFor color
        level).source := by
  rcases LevelMap.exists_get?_of_firstMissing? hPassed.complete
      level with
    ⟨raw, hRaw⟩
  unfold writtenText?
  rw [hRaw]
  cases color with
  | true => exact hPassed.compile_eq_source hRaw
  | false => exact hPassed.uncoloredText?_eq_source hRaw

theorem exists_select_of_build
    {settings : Settings}
    {built : Renderer}
    (hBuild : settings.build = .ok built)
    (supported : Bool)
    (level : Level) :
    ∃ template,
      (built.decideColor supported).2.select level =
        .ok template ∧
      settings.writtenText?
          (settings.forceColor ||
            settings.supportsColor.getD supported)
          level =
        some template.source := by
  rcases (build_eq_ok_iff settings built).mp hBuild with
    ⟨parts, hPassed, rfl⟩
  refine ⟨_, ?_, hPassed.writtenText?_eq_source _ level⟩
  rw [Renderer.decideColor_snd]
  exact (Renderer.select_eq_ok_iff _ _ _).mpr ⟨_, rfl, rfl⟩

end Settings

/-
  Settings make a renderer exactly if they are acceptable, and
  whatever is decided about colour then, each level is written
  with the text that the settings call for.
-/
theorem build_accepts_and_selects
    (settings : Settings) :
    ((∃ built, settings.build = .ok built) ↔
      settings.Acceptable) ∧
    ∀ built,
      settings.build = .ok built →
        ∀ (supported : Bool) (level : Level),
          ∃ template,
            (built.decideColor supported).2.select level =
              .ok template ∧
            settings.writtenText?
                (settings.forceColor ||
                  settings.supportsColor.getD supported)
                level =
              some template.source := by
  refine ⟨settings.exists_build_iff, ?_⟩
  intro built hBuild supported level
  exact Settings.exists_select_of_build hBuild supported level

/- A text without markers for errors, and for no other level. -/
def gappedSettings : Settings :=
  { Settings.blank with
    templates := LevelMap.uniform "\x7bmessage\x7d".toList
    backups :=
      some (LevelMap.empty.set .error
        "\x7blevelname\x7d: \x7b_message\x7d".toList) }

theorem build_accepts_and_selects_of_gap :
    ∃ built,
      gappedSettings.build = .ok built ∧
      gappedSettings.Acceptable ∧
      (∃ template,
        (built.decideColor false).2.select .error =
          .ok template ∧
        template.source =
          "\x7blevelname\x7d: \x7bmessage\x7d".toList) ∧
      ∃ template,
        (built.decideColor false).2.select .info =
          .ok template ∧
        compile "\x7bmessage\x7d".toList =
          .ok template.source := by
  rcases build_accepts_and_selects gappedSettings with
    ⟨hAccepted, hSelected⟩
  have hBuild : gappedSettings.build.toOption.isSome := by
    decide +kernel
  simp only [Option.isSome_iff_exists, toOption_eq_some_iff]
    at hBuild
  have hError :
      gappedSettings.writtenText? false .error =
        some "\x7blevelname\x7d: \x7bmessage\x7d".toList := by
    decide +kernel
  rcases hBuild with ⟨built, hBuild⟩
  rcases hSelected built hBuild false .error with
    ⟨template, hTemplate, hSource⟩
  rcases hSelected built hBuild false .info with
    ⟨other, hOther, hText⟩
  refine
    ⟨built, hBuild, hAccepted.mp ⟨built, hBuild⟩,
      ⟨template, hTemplate, ?_⟩, other, hOther, ?_⟩
  · exact Option.some.inj (hSource.symm.trans hError)
  · exact (toOption_eq_some_iff _ _).mp hText

end LogLine
