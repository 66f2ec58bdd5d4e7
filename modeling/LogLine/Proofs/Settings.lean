import LogLine.Settings
import LogLine.Proofs.LevelMap
import LogLine.Proofs.Outcome

/-
  What settings that make a renderer have passed, and what the
  renderer is made of.

  Key definitions include:
    * `LogLine.Settings.Passed`
    * `LogLine.Settings.ReadsPass`

  Key theorems include:
    * `LogLine.Settings.build_eq_ok_iff`
    * `LogLine.Settings.validate_of_checkTemplates`
    * `LogLine.Settings.backupSource_cases`
    * `LogLine.Settings.Passed.exists_backup`
-/

------------------------------------------------------------
-- Stages of Building
------------------------------------------------------------

namespace LogLine

namespace Settings

/- The parts of a renderer that settings are made into. -/
structure Parts where
  palettes : Dict Palette
  compiled : LevelMap Template
  color : Level → Template
  backup : Option (Level → Option Template)

/- The renderer of settings and of the parts made of them. -/
def assemble
    (settings : Settings)
    (parts : Parts) :
    Renderer where
  color := parts.color
  backup := parts.backup
  palettes := parts.palettes
  defaults := settings.defaults
  datePattern := settings.datePattern
  forceColor := settings.forceColor
  supportsColor := settings.supportsColor
  timeFormatter := settings.timeFormatter

/- The settings pass all checks and give these parts. -/
structure Passed
    (settings : Settings)
    (parts : Parts) : Prop where
  complete : settings.templates.firstMissing? = none
  templates :
    settings.checkTemplates settings.templates = .ok ()
  backups :
    ∀ backups ∈ settings.backups,
      settings.checkTemplates backups = .ok ()
  palettes : settings.buildPalettes = .ok parts.palettes
  datePattern : settings.checkDatePattern = .ok ()
  compiled :
    settings.templates.tryMap colorTemplate =
      .ok parts.compiled
  color : parts.compiled.resolved = .ok parts.color
  backup : settings.buildBackup = .ok parts.backup

/- What is made once the templates are checked. -/
def assembleChecked
    (settings : Settings) :
    Except SetupError Renderer := do
  let palettes ← settings.buildPalettes
  settings.checkDatePattern
  let compiled ← settings.templates.tryMap colorTemplate
  let color ←
    compiled.resolved.mapError SetupError.incompleteTemplates
  let backup ← settings.buildBackup
  return settings.assemble ⟨palettes, compiled, color, backup⟩

theorem assembleChecked_eq_ok_iff
    (settings : Settings)
    (renderer : Renderer) :
    settings.assembleChecked = .ok renderer ↔
      ∃ parts : Parts,
        settings.buildPalettes = .ok parts.palettes ∧
        settings.checkDatePattern = .ok () ∧
        settings.templates.tryMap colorTemplate =
          .ok parts.compiled ∧
        parts.compiled.resolved = .ok parts.color ∧
        settings.buildBackup = .ok parts.backup ∧
        renderer = settings.assemble parts := by
  unfold assembleChecked
  simp only [bind_eq_ok_iff, mapError_eq_ok_iff]
  constructor
  · rintro
      ⟨palettes, hPalettes, checked, hDate, compiled, hCompiled,
        color, hColor, backup, hBackup, hRenderer⟩
    cases hRenderer
    exact
      ⟨⟨palettes, compiled, color, backup⟩, hPalettes, hDate,
        hCompiled, hColor, hBackup, rfl⟩
  · rintro
      ⟨⟨palettes, compiled, color, backup⟩, hPalettes, hDate,
        hCompiled, hColor, hBackup, rfl⟩
    exact
      ⟨palettes, hPalettes, (), hDate, compiled, hCompiled,
        color, hColor, backup, hBackup, rfl⟩

theorem build_of_firstMissing?
    {settings : Settings}
    (hComplete : settings.templates.firstMissing? = none) :
    settings.build =
      (do
        settings.checkTemplates settings.templates
        match settings.backups with
        | some backups =>
            settings.checkTemplates backups
            settings.assembleChecked
        | none => settings.assembleChecked) := by
  unfold build
  rw [hComplete]
  cases settings.backups with
  | none => rfl
  | some backups => rfl

/- A renderer is built exactly if all stages are passed. -/
theorem build_eq_ok_iff
    (settings : Settings)
    (renderer : Renderer) :
    settings.build = .ok renderer ↔
      ∃ parts,
        settings.Passed parts ∧
          renderer = settings.assemble parts := by
  by_cases hComplete : settings.templates.firstMissing? = none
  · rw [build_of_firstMissing? hComplete, bind_eq_ok_iff]
    constructor
    · rintro ⟨checked, hTemplates, hRest⟩
      have hBackups :
          (∀ backups ∈ settings.backups,
            settings.checkTemplates backups = .ok ()) ∧
          settings.assembleChecked = .ok renderer := by
        cases hBackups : settings.backups with
        | none =>
            rw [hBackups] at hRest
            exact ⟨by simp, hRest⟩
        | some backups =>
            rw [hBackups, bind_eq_ok_iff] at hRest
            rcases hRest with ⟨passed, hPassed, hRest⟩
            refine ⟨?_, hRest⟩
            intro other hMem
            cases hMem
            exact hPassed
      rcases hBackups with ⟨hBackups, hRest⟩
      rcases (assembleChecked_eq_ok_iff settings renderer).mp
          hRest with
        ⟨parts, hPalettes, hDate, hCompiled, hColor, hBackup,
          hRenderer⟩
      exact
        ⟨parts,
          ⟨hComplete, hTemplates, hBackups, hPalettes, hDate,
            hCompiled, hColor, hBackup⟩, hRenderer⟩
    · rintro ⟨parts, hPassed, hRenderer⟩
      refine ⟨(), hPassed.templates, ?_⟩
      have hRest : settings.assembleChecked = .ok renderer :=
        (assembleChecked_eq_ok_iff settings renderer).mpr
          ⟨parts, hPassed.palettes, hPassed.datePattern,
            hPassed.compiled, hPassed.color, hPassed.backup,
            hRenderer⟩
      cases hBackups : settings.backups with
      | none => exact hRest
      | some backups =>
          have hChecked := hPassed.backups backups hBackups
          simp only [hChecked]
          exact hRest
  · constructor
    · intro hBuild
      unfold build at hBuild
      cases hMissing : settings.templates.firstMissing? with
      | none => exact absurd hMissing hComplete
      | some level =>
          rw [hMissing] at hBuild
          cases hBuild
    · rintro ⟨parts, hPassed, -⟩
      exact absurd hPassed.complete hComplete

/- A renderer has the defaults that were set. -/
theorem defaults_of_build
    {settings : Settings}
    {renderer : Renderer}
    (hBuild : settings.build = .ok renderer) :
    renderer.defaults = settings.defaults := by
  rcases (build_eq_ok_iff settings renderer).mp hBuild with
    ⟨parts, -, rfl⟩
  rfl

/- The templates of all slots pass their check. -/
theorem validate_of_checkTemplates
    {settings : Settings}
    {templates : LevelMap Text}
    (hChecked : settings.checkTemplates templates = .ok ())
    {slot : Slot}
    {raw : Text}
    (hStored : templates.stored? slot = some raw) :
    validate raw intrinsicNames settings.defaults.keys =
      .ok () := by
  unfold checkTemplates at hChecked
  rw [forM_eq_ok_iff] at hChecked
  have hSlot :=
    hChecked (slot, raw)
      ((LevelMap.mem_slots_iff templates slot raw).mpr hStored)
  rw [mapError_eq_ok_iff] at hSlot
  exact hSlot

end Settings

end LogLine

------------------------------------------------------------
-- Templates of a Renderer
------------------------------------------------------------

namespace LogLine

namespace Settings

/- What a way of making templates reads is the text of a pass. -/
def ReadsPass
    {ε : Type}
    (make : Slot → Text → Except SetupError Template)
    (pass : Text → Except ε Text) : Prop :=
  ∀ slot raw template,
    make slot raw = .ok template ↔
      ∃ text,
        pass raw = .ok text ∧ Template.parse text = .ok template

theorem readsPass_colorTemplate :
    ReadsPass colorTemplate compile := by
  intro slot raw template
  unfold colorTemplate parseTemplate
  simp only [bind_eq_ok_iff, mapError_eq_ok_iff]

theorem readsPass_plainTemplate :
    ReadsPass plainTemplate stripColor := by
  intro slot raw template
  unfold plainTemplate parseTemplate
  simp only [bind_eq_ok_iff, mapError_eq_ok_iff]

/- What backups are made of, by what is set. -/
theorem backupSource_cases
    (settings : Settings) :
    (∃ backups,
      settings.backups = some backups ∧
        settings.backupSource = some backups) ∨
    (settings.backups = none ∧ settings.deriveBackup = true ∧
      settings.backupSource = some settings.templates) ∨
    (settings.backups = none ∧ settings.deriveBackup = false ∧
      settings.backupSource = none) := by
  unfold backupSource
  cases hBackups : settings.backups with
  | some backups => exact Or.inl ⟨backups, rfl, rfl⟩
  | none =>
      right
      cases hDerive : settings.deriveBackup with
      | true => exact Or.inl ⟨rfl, rfl, rfl⟩
      | false => exact Or.inr ⟨rfl, rfl, rfl⟩

theorem Passed.exists_backup
    {settings : Settings}
    {parts : Parts}
    (hPassed : settings.Passed parts)
    {raws : LevelMap Text}
    (hSource : settings.backupSource = some raws) :
    ∃ plain,
      raws.tryMap plainTemplate = .ok plain ∧
        parts.backup = some plain.get? := by
  have hBackup := hPassed.backup
  unfold buildBackup at hBackup
  rw [hSource] at hBackup
  simp only [bind_eq_ok_iff] at hBackup
  rcases hBackup with ⟨plain, hPlain, hParts⟩
  exact ⟨plain, hPlain, (Except.ok.inj hParts).symm⟩

theorem Passed.backup_eq_none
    {settings : Settings}
    {parts : Parts}
    (hPassed : settings.Passed parts)
    (hSource : settings.backupSource = none) :
    parts.backup = none := by
  have hBackup := hPassed.backup
  unfold buildBackup at hBackup
  rw [hSource] at hBackup
  exact (Except.ok.inj hBackup).symm

end Settings

end LogLine
