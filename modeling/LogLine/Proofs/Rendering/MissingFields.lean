import LogLine.Proofs.Color.Table
import LogLine.Proofs.Rendering.Line
import LogLine.Proofs.Template.KnownNames

/-
  Names without a value: which names a renderer has values
  for, and which names a line can fail on.

  Key theorems include:
    * `LogLine.Renderer.exists_get?_table_of_knownName`
    * `LogLine.missing_names_are_nested`
    * `LogLine.build_misses_nested_names`
-/

------------------------------------------------------------
-- Names with a Value
------------------------------------------------------------

namespace LogLine

namespace Renderer

variable {renderer : Renderer}
variable {record : Record}

/- Known names have a value, and so do their markers. -/
theorem exists_get?_table_of_knownName
    {name : Text}
    (hName :
      KnownName (intrinsicNames ++ renderer.defaults.keys) name)
    (level : Level)
    (color : Bool) :
    ∃ value,
      (renderer.table level record color).get? name =
        some value := by
  have hSome :
      ∃ pair ∈
        renderer.baseline ++
          (if color then renderer.paletteMarkers level else []) ++
          renderer.defaults.entries ++ record.fields,
        pair.1 = name := by
    simp only [List.mem_append]
    cases hName with
    | own hOwn =>
        rcases List.mem_append.mp hOwn with hIntrinsic | hDefault
        · refine ⟨(name, .none), Or.inl (Or.inl (Or.inl ?_)), rfl⟩
          unfold baseline
          exact
            List.mem_append_right _
              (List.mem_map.mpr ⟨name, hIntrinsic, rfl⟩)
        · rcases List.mem_map.mp hDefault with
            ⟨pair, hMem, hKey⟩
          exact ⟨pair, Or.inl (Or.inr hMem), hKey⟩
    | marker hOwn side =>
        have hMem := renderer.marker_mem_baseline hOwn side
        exact ⟨_, Or.inl (Or.inl (Or.inl hMem)), rfl⟩
  rcases Dict.exists_get?_ofList hSome with ⟨value, hFound, -⟩
  exact ⟨value, hFound⟩

/- So do the names of the extras of a record. -/
theorem get?_extras_of_get?_table
    {name : Text}
    {level : Level}
    {color : Bool}
    (hNone :
      (renderer.table level record color).get? name = none) :
    record.extras.get? name = none := by
  unfold table at hNone
  rw [Dict.get?_ofList_eq_none_iff] at hNone
  rw [Option.eq_none_iff_forall_ne_some]
  intro value hExtra
  refine hNone (name, value) ?_ rfl
  apply List.mem_append_right
  unfold Record.fields
  apply List.mem_append_left
  exact (Dict.get?_eq_some_iff _ _ _).mp hExtra

/- What is missing is no name that every line has a value for. -/
theorem unknown_of_missing
    {color : Bool}
    (hMode : renderer.colorMode = .ok color)
    {name : Text}
    (hMissing :
      (renderer.render record).1 =
        .error (.missingField name)) :
    name ∈ (renderer.templateFor color record.level).names ∧
    ¬ KnownName (intrinsicNames ++ renderer.defaults.keys) name ∧
    record.extras.get? name = none := by
  rw [render_fst hMode] at hMissing
  cases hLine :
      (renderer.templateFor color record.level).render
        (renderer.filledTable color record).get? with
  | ok line =>
      rw [hLine] at hMissing
      cases hMissing
  | error fault =>
      rw [hLine] at hMissing
      have hFault : fault = .missingField name :=
        Except.error.inj hMissing
      rw [hFault, Template.render] at hLine
      rcases missingField_of_renderSegments _ hLine with
        ⟨hMem, hNone⟩
      refine ⟨hMem, ?_, ?_⟩
      · intro hKnown
        rcases exists_get?_table_of_knownName hKnown record.level
            color with
          ⟨value, hSome⟩
        unfold filledTable at hNone
        rw [hSome] at hNone
        cases hNone
      · rcases renderer.withTime_cases
            (renderer.templateFor color record.level) record with
          ⟨timeText, timeCalls, hTime⟩
        unfold filledTable at hNone
        rw [hTime] at hNone
        have hExtras := get?_extras_of_get?_table hNone
        exact hExtras

end Renderer

/- A field of a known template has a known name, or none. -/
theorem KnownTemplate.knownName
    {names : List Text}
    {template : Template}
    {tokens : List Token}
    (hTemplate : KnownTemplate names template tokens)
    {name : Text}
    (hMem : name ∈ template.fieldNames)
    (hName : name ≠ []) :
    KnownName names name := by
  unfold Template.fieldNames at hMem
  rw [filterMap_name?_of_readSegments hTemplate.pieces,
    List.mem_filterMap] at hMem
  rcases hMem with ⟨token, hToken, hSame⟩
  cases token with
  | literal text => cases hSame
  | field f =>
      cases hSame
      exact hTemplate.known f hToken hName

end LogLine

------------------------------------------------------------
-- Missing Names
------------------------------------------------------------

namespace LogLine

/-
  Without positional fields a line misses only names that
  stand in specs, and only such as the check would not have
  allowed for a field and as the record does not bring.
-/
theorem missing_names_are_nested
    {settings : Settings}
    {built : Renderer}
    (hBuild : settings.build = .ok built)
    (hBalanced :
      ∀ key ∈ settings.defaults.keys, BracesBalanced key)
    (supported : Bool)
    {record : Record}
    {template : Template}
    (hSelect :
      (built.decideColor supported).2.select record.level =
        .ok template)
    (hNamed : [] ∉ template.fieldNames)
    {name : Text}
    (hMissing :
      ((built.decideColor supported).2.render record).1 =
        .error (.missingField name)) :
    name ∈ template.names ∧
    name ∉ template.fieldNames ∧
    name ∉ intrinsicNames ∧
    name ∉ settings.defaults.keys ∧
    record.extras.get? name = none := by
  rcases (Renderer.select_eq_ok_iff _ _ _).mp hSelect with
    ⟨color, hMode, rfl⟩
  rcases Renderer.unknown_of_missing hMode hMissing with
    ⟨hMem, hUnknown, hExtras⟩
  rw [Renderer.decideColor_snd] at hUnknown hNamed hMem ⊢
  have hDefaults := Settings.defaults_of_build hBuild
  have hNames :
      ¬ KnownName (intrinsicNames ++ settings.defaults.keys)
        name :=
    hDefaults ▸ hUnknown
  rcases Settings.exists_knownTemplate hBuild hBalanced color
      record.level with
    ⟨tokens, hTemplate⟩
  refine ⟨hMem, ?_, ?_, ?_, hExtras⟩
  · intro hField
    refine hNames (hTemplate.knownName hField ?_)
    rintro rfl
    exact hNamed hField
  · intro hIntrinsic
    exact hNames (.own (List.mem_append_left _ hIntrinsic))
  · intro hDefault
    exact hNames (.own (List.mem_append_right _ hDefault))

/- A width that no record and no default gives. -/
def widthSettings : Settings :=
  { Settings.blank with
    templates :=
      LevelMap.uniform "\x7bmessage:>\x7bw\x7d\x7d".toList }

def readyRecord : Record :=
  Record.ofMessage .info "app".toList "ready".toList default

/- The settings are accepted, and the line misses the width. -/
theorem width_missing_in_line :
    ∃ built template,
      widthSettings.build = .ok built ∧
      (built.decideColor false).2.select readyRecord.level =
        .ok template ∧
      [] ∉ template.fieldNames ∧
      ((built.decideColor false).2.render readyRecord).1 =
        .error (.missingField "w".toList) := by
  have hRun :
      (widthSettings.build.toOption.bind fun built =>
        ((built.decideColor false).2.select
          readyRecord.level).toOption.map fun template =>
            (template.fieldNames,
              ((built.decideColor false).2.render
                readyRecord).1)) =
        some
          (["message".toList],
            .error (.missingField "w".toList)) := by
    decide +kernel
  simp only [Option.bind_eq_some_iff, Option.map_eq_some_iff,
    toOption_eq_some_iff, Prod.mk.injEq] at hRun
  rcases hRun with
    ⟨built, hBuild, template, hSelect, hNames, hMissing⟩
  refine ⟨built, template, hBuild, hSelect, ?_, hMissing⟩
  rw [hNames]
  decide

/- So the check of settings does not rule out missing names. -/
theorem build_misses_nested_names :
    ¬ ∀ (settings : Settings) (built : Renderer)
        (supported : Bool) (record : Record)
        (template : Template) (name : Text),
      settings.build = .ok built →
      (built.decideColor supported).2.select record.level =
        .ok template →
      [] ∉ template.fieldNames →
      ((built.decideColor supported).2.render record).1 ≠
        .error (.missingField name) := by
  intro hNever
  rcases width_missing_in_line with
    ⟨built, template, hBuild, hSelect, hNamed, hMissing⟩
  exact
    hNever widthSettings built false readyRecord template
      "w".toList hBuild hSelect hNamed hMissing

theorem missing_names_are_nested_of_width :
    ∃ built template,
      widthSettings.build = .ok built ∧
      (∀ key ∈ widthSettings.defaults.keys,
        BracesBalanced key) ∧
      (built.decideColor false).2.select readyRecord.level =
        .ok template ∧
      [] ∉ template.fieldNames ∧
      ((built.decideColor false).2.render readyRecord).1 =
        .error (.missingField "w".toList) ∧
      "w".toList ∈ template.names ∧
      "w".toList ∉ template.fieldNames ∧
      "w".toList ∉ intrinsicNames ∧
      "w".toList ∉ widthSettings.defaults.keys ∧
      readyRecord.extras.get? "w".toList = none := by
  have hKeys :
      ∀ key ∈ widthSettings.defaults.keys, BracesBalanced key := by
    decide
  rcases width_missing_in_line with
    ⟨built, template, hBuild, hSelect, hNamed, hMissing⟩
  exact
    ⟨built, template, hBuild, hKeys, hSelect, hNamed, hMissing,
      missing_names_are_nested hBuild hKeys false hSelect hNamed
        hMissing⟩

/-
  A default whose key holds an open brace: its marker swallows
  the text up to the next closing brace that balances.
-/
def openBraceSettings : Settings :=
  { Settings.blank with
    templates :=
      LevelMap.uniform "\x7bx[\x7b]:\x7d<\x7d\x7d\x7d".toList
    defaults := Dict.ofList [("x[\x7b]".toList, .none)] }

example :
    (openBraceSettings.build.toOption.map fun built =>
      ((built.decideColor true).2.render readyRecord).1) =
      some
        (.error
          (.missingField
            "x[\x7b]\x02\x7d\x7bx[\x7b]".toList)) := by
  decide +kernel

end LogLine
