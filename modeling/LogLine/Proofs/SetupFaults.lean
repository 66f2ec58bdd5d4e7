import LogLine.Proofs.Acceptance
import LogLine.Proofs.Template.Validated

/-
  What settings that make no renderer are told.

  Key definitions include:
    * `LogLine.Settings.Fault`

  Key theorems include:
    * `LogLine.exists_stripColor_of_validate`
    * `LogLine.Settings.fault_of_assembleChecked`
    * `LogLine.Settings.fault_of_build`

  A text that passed its check loses its colour without a fault,
  and compiled templates miss no level, so that two of the
  faults that building could report never come up.
-/

------------------------------------------------------------
-- Faults
------------------------------------------------------------

namespace LogLine

namespace Settings

/-
  Each fault is one that the settings have, in the place that
  it names.
-/
inductive Fault
    (settings : Settings) : SetupError → Prop where
  | incompleteTemplates {level : Level}
      (hMissing : settings.templates.firstMissing? = some level) :
      Fault settings (.incompleteTemplates level)
  | validation {raws : LevelMap Text} {slot : Slot} {raw : Text}
      {fault : ValidationError}
      (hRaws :
        raws = settings.templates ∨ settings.backups = some raws)
      (hStored : raws.stored? slot = some raw)
      (hFault :
        validate raw intrinsicNames settings.defaults.keys =
          .error fault) :
      Fault settings (.validation slot raw fault)
  | uncompiled {slot : Slot} {raw : Text} {fault : CompileError}
      (hStored : settings.templates.stored? slot = some raw)
      (hFault : compile raw = .error fault) :
      Fault settings (.compile slot raw fault)
  | marked {slot : Slot} {raw text : Text} {fault : ParseError}
      (hStored : settings.templates.stored? slot = some raw)
      (hText : compile raw = .ok text)
      (hFault : Template.parse text = .error fault) :
      Fault settings (.template slot raw fault)
  | plain {raws : LevelMap Text} {slot : Slot} {raw text : Text}
      {fault : ParseError}
      (hRaws : settings.backupSource = some raws)
      (hStored : raws.stored? slot = some raw)
      (hText : stripColor raw = .ok text)
      (hFault : Template.parse text = .error fault) :
      Fault settings (.template slot raw fault)
  | palette {field : Text} {colors : LevelMap Color}
      {fault : PaletteError}
      (hColors : settings.palettes.get? field = some colors)
      (hFault : Palette.ofColors colors = .error fault) :
      Fault settings (.palette field fault)
  | unknownPaletteField {field : Text} {colors : LevelMap Color}
      (hColors : settings.palettes.get? field = some colors)
      (hIntrinsic : field ∉ intrinsicNames)
      (hDefault : field ∉ settings.defaults.keys) :
      Fault settings (.unknownPaletteField field)
  | dateFormat {pattern : Text}
      (hPattern : settings.datePattern = some pattern)
      (hFault : TimePattern.Refused pattern) :
      Fault settings (.dateFormat pattern)

end Settings

end LogLine

------------------------------------------------------------
-- Faults of Stages
------------------------------------------------------------

namespace LogLine

/- A text that passed its check loses its colour. -/
theorem exists_stripColor_of_validate
    {raw : Text}
    {allowed extra : List Text}
    (hValid : validate raw allowed extra = .ok ()) :
    ∃ text, stripColor raw = .ok text := by
  have hViolation :=
    ((validate_eq_ok_iff raw allowed extra).mp hValid).2.1
  unfold stripColor
  rw [hViolation]
  exact ⟨_, rfl⟩

namespace Settings

variable {settings : Settings}
variable {fault : SetupError}

theorem fault_of_checkTemplates
    {raws : LevelMap Text}
    (hRaws :
      raws = settings.templates ∨ settings.backups = some raws)
    (hFault : settings.checkTemplates raws = .error fault) :
    settings.Fault fault := by
  rcases exists_of_forM_eq_error hFault with
    ⟨⟨slot, raw⟩, hMem, hCheck⟩
  rcases (mapError_eq_error_iff _ _ _).mp hCheck with
    ⟨origin, hOrigin, rfl⟩
  exact
    .validation hRaws
      ((LevelMap.mem_slots_iff raws slot raw).mp hMem) hOrigin

theorem fault_of_palette
    {field : Text}
    {colors : LevelMap Color}
    (hColors : settings.palettes.get? field = some colors)
    (hFault : settings.palette field colors = .error fault) :
    settings.Fault fault := by
  unfold palette at hFault
  by_cases hKnown :
      field ∈ intrinsicNames ∨
        settings.defaults.contains field = true
  · rw [if_pos hKnown] at hFault
    rcases (mapError_eq_error_iff _ _ _).mp hFault with
      ⟨origin, hOrigin, rfl⟩
    exact .palette hColors hOrigin
  · rw [if_neg hKnown] at hFault
    cases hFault
    rw [Dict.contains_iff_mem_keys, not_or] at hKnown
    exact .unknownPaletteField hColors hKnown.1 hKnown.2

theorem fault_of_buildPalettes
    (hFault : settings.buildPalettes = .error fault) :
    settings.Fault fault := by
  rcases (bind_eq_error_iff _ _ _).mp hFault with
    hList | ⟨palettes, -, hNever⟩
  · rcases exists_of_mapM_eq_error hList with
      ⟨⟨field, colors⟩, hMem, hEntry⟩
    rcases (bind_eq_error_iff _ _ _).mp hEntry with
      hPalette | ⟨palette, -, hNever⟩
    · exact
        fault_of_palette ((Dict.get?_eq_some_iff _ _ _).mpr hMem)
          hPalette
    · cases hNever
  · cases hNever

theorem fault_of_checkDatePattern
    (hFault : settings.checkDatePattern = .error fault) :
    settings.Fault fault := by
  unfold checkDatePattern at hFault
  cases hPattern : settings.datePattern with
  | none =>
      rw [hPattern] at hFault
      cases hFault
  | some pattern =>
      simp only [hPattern] at hFault
      by_cases hValid : TimePattern.isValid pattern = true
      · rw [if_pos hValid] at hFault
        cases hFault
      · rw [if_neg hValid] at hFault
        cases hFault
        exact
          .dateFormat hPattern
            ((TimePattern.parse?_eq_none_iff pattern).mp
              (Option.not_isSome_iff_eq_none.mp hValid))

theorem fault_of_colorTemplate
    {slot : Slot}
    {raw : Text}
    (hStored : settings.templates.stored? slot = some raw)
    (hFault : colorTemplate slot raw = .error fault) :
    settings.Fault fault := by
  rcases (bind_eq_error_iff _ _ _).mp hFault with
    hCompile | ⟨text, hText, hParse⟩
  · rcases (mapError_eq_error_iff _ _ _).mp hCompile with
      ⟨origin, hOrigin, rfl⟩
    exact .uncompiled hStored hOrigin
  · rw [mapError_eq_ok_iff] at hText
    rcases (mapError_eq_error_iff _ _ _).mp hParse with
      ⟨origin, hOrigin, rfl⟩
    exact .marked hStored hText hOrigin

/- Texts that passed their check are only misread, if at all. -/
theorem fault_of_plainTemplate
    {raws : LevelMap Text}
    (hRaws : settings.backupSource = some raws)
    (hValid : settings.Validates raws)
    {slot : Slot}
    {raw : Text}
    (hStored : raws.stored? slot = some raw)
    (hFault : plainTemplate slot raw = .error fault) :
    settings.Fault fault := by
  rcases exists_stripColor_of_validate
      (hValid slot raw hStored) with
    ⟨text, hText⟩
  unfold plainTemplate at hFault
  rw [hText] at hFault
  rcases (mapError_eq_error_iff _ _ _).mp hFault with
    ⟨origin, hOrigin, rfl⟩
  exact .plain hRaws hStored hText hOrigin

theorem fault_of_buildBackup
    (hTemplates : settings.Validates settings.templates)
    (hBackups :
      ∀ backups ∈ settings.backups, settings.Validates backups)
    (hFault : settings.buildBackup = .error fault) :
    settings.Fault fault := by
  unfold buildBackup at hFault
  cases hSource : settings.backupSource with
  | none =>
      rw [hSource] at hFault
      cases hFault
  | some raws =>
      have hValid : settings.Validates raws := by
        rcases settings.backupSource_cases with
          ⟨backups, hSome, hSame⟩ | ⟨-, -, hSame⟩ | ⟨-, -, hSame⟩
        · rw [hSource] at hSame
          cases hSame
          exact hBackups raws hSome
        · rw [hSource] at hSame
          cases hSame
          exact hTemplates
        · rw [hSource] at hSame
          cases hSame
      rw [hSource, bind_eq_error_iff] at hFault
      rcases hFault with hMap | ⟨plain, -, hNever⟩
      · rcases LevelMap.exists_of_tryMap_eq_error hMap with
          ⟨slot, raw, hStored, hTemplate⟩
        exact
          fault_of_plainTemplate hSource hValid hStored hTemplate
      · cases hNever

end Settings

end LogLine

------------------------------------------------------------
-- Faults of Building
------------------------------------------------------------

namespace LogLine

namespace Settings

variable {settings : Settings}
variable {fault : SetupError}

/- No level is missed once the templates are compiled. -/
theorem fault_of_assembleChecked
    (hComplete : settings.templates.firstMissing? = none)
    (hTemplates : settings.Validates settings.templates)
    (hBackups :
      ∀ backups ∈ settings.backups, settings.Validates backups)
    (hFault : settings.assembleChecked = .error fault) :
    settings.Fault fault := by
  unfold assembleChecked at hFault
  simp only [bind_eq_error_iff] at hFault
  rcases hFault with hPalettes | ⟨palettes, -, hFault⟩
  · exact fault_of_buildPalettes hPalettes
  rcases hFault with hDate | ⟨checked, -, hFault⟩
  · exact fault_of_checkDatePattern hDate
  rcases hFault with hMap | ⟨compiled, hCompiled, hFault⟩
  · rcases LevelMap.exists_of_tryMap_eq_error hMap with
      ⟨slot, raw, hStored, hTemplate⟩
    exact fault_of_colorTemplate hStored hTemplate
  rcases hFault with hColor | ⟨color, -, hFault⟩
  · rcases
        (LevelMap.changed_of_tryMap hCompiled).exists_resolved
          (LevelMap.exists_get?_of_firstMissing? hComplete) with
      ⟨color, hOk⟩
    rw [hOk] at hColor
    cases hColor
  rcases hFault with hBackup | ⟨backup, -, hNever⟩
  · exact fault_of_buildBackup hTemplates hBackups hBackup
  · cases hNever

/- Settings that make no renderer have the fault that is told. -/
theorem fault_of_build
    (hFault : settings.build = .error fault) :
    settings.Fault fault := by
  cases hComplete : settings.templates.firstMissing? with
  | some level =>
      unfold build at hFault
      rw [hComplete] at hFault
      cases hFault
      exact .incompleteTemplates hComplete
  | none =>
      rw [build_of_firstMissing? hComplete,
        bind_eq_error_iff] at hFault
      rcases hFault with hTemplates | ⟨_, hTemplates, hFault⟩
      · exact fault_of_checkTemplates (Or.inl rfl) hTemplates
      rw [checkTemplates_eq_ok_iff] at hTemplates
      cases hBackups : settings.backups with
      | none =>
          rw [hBackups] at hFault
          refine
            fault_of_assembleChecked hComplete hTemplates ?_ hFault
          simp [hBackups]
      | some backups =>
          rw [hBackups, bind_eq_error_iff] at hFault
          rcases hFault with hChecked | ⟨_, hChecked, hFault⟩
          · exact
              fault_of_checkTemplates (Or.inr hBackups) hChecked
          rw [checkTemplates_eq_ok_iff] at hChecked
          refine
            fault_of_assembleChecked hComplete hTemplates ?_ hFault
          intro other hOther
          rw [hBackups, Option.mem_some_iff] at hOther
          rw [← hOther]
          exact hChecked

end Settings

end LogLine
