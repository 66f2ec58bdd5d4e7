import LogLine.Proofs.Settings
import LogLine.Proofs.Color.Table
import LogLine.Proofs.Rendering.Line

/-
  Which of its layers the table of a record takes the value of
  a name from.

  A record is asked first, then come the defaults, and a name
  that every record can have is never missed.  There is one
  exception: an extra under the name of an attribute shows
  when the record does not have the attribute, although the
  record itself does not answer with it.

  Key definitions include:
    * `LogLine.Record.exposedExtra?`
    * `LogLine.Renderer.ruledValue?`

  Key theorems include:
    * `LogLine.Record.get?_fields`
    * `LogLine.Record.exposedExtra?_eq_some_iff`
    * `LogLine.Renderer.get?_table_eq_layers`
    * `LogLine.substitutions_expose_extras`
    * `LogLine.extra_shows_for_absent_attribute`
-/

------------------------------------------------------------
-- Names of Attributes
------------------------------------------------------------

namespace LogLine

theorem Attribute.ofName?_eq_some_iff
    (name : Text)
    (attr : Attribute) :
    ofName? name = some attr ↔ attr.fieldName = name := by
  constructor
  · intro hFound
    have hName := List.find?_some hFound
    exact beq_iff_eq.mp hName
  · rintro rfl
    exact ofName?_fieldName attr

namespace Attribute

theorem mem_all
    (attr : Attribute) :
    attr ∈ all := by
  cases attr <;> decide

theorem fieldName_mem_intrinsicNames
    (attr : Attribute) :
    attr.fieldName ∈ intrinsicNames :=
  List.mem_append_left _ (List.mem_map_of_mem attr.mem_all)

end Attribute

namespace Record

variable (record : Record)

theorem field?_fieldName
    (attr : Attribute) :
    record.field? attr.fieldName = record.attributeValue? attr := by
  rw [field?, Attribute.ofName?_fieldName]

/- Under all other names a record has its extras. -/
theorem field?_of_not_mem
    {name : Text}
    (hName : name ∉ intrinsicNames) :
    record.field? name = record.extras.get? name := by
  unfold field?
  cases hAttribute : Attribute.ofName? name with
  | none => rfl
  | some attr =>
      rw [Attribute.ofName?_eq_some_iff] at hAttribute
      rw [← hAttribute] at hName
      exact absurd attr.fieldName_mem_intrinsicNames hName

/- An extra that shows though the record answers with nothing. -/
def exposedExtra?
    (name : Text) :
    Option Value :=
  match record.field? name with
  | some _ => none
  | none => record.extras.get? name

/- It stands under the name of an attribute that is absent. -/
theorem exposedExtra?_eq_some_iff
    (name : Text)
    (value : Value) :
    record.exposedExtra? name = some value ↔
      ∃ attr : Attribute,
        attr.fieldName = name ∧
        record.attributeValue? attr = none ∧
        record.extras.get? name = some value := by
  constructor
  · intro hExposed
    unfold exposedExtra? at hExposed
    cases hField : record.field? name with
    | some other =>
        rw [hField] at hExposed
        cases hExposed
    | none =>
        rw [hField] at hExposed
        unfold field? at hField
        cases hAttribute : Attribute.ofName? name with
        | none =>
            simp only [hAttribute, hExposed] at hField
            cases hField
        | some attr =>
            rw [hAttribute] at hField
            exact
              ⟨attr, (Attribute.ofName?_eq_some_iff name attr).mp
                hAttribute, hField, hExposed⟩
  · rintro ⟨attr, rfl, hAbsent, hExtra⟩
    rw [exposedExtra?, field?_fieldName, hAbsent, hExtra]

/- What is stored of a record: its answers, else its extras. -/
theorem get?_fields
    (name : Text) :
    (Dict.ofList record.fields).get? name =
      (record.field? name).or (record.extras.get? name) := by
  unfold fields
  rw [Dict.get?_ofList_append, Dict.get?_ofList_filterMap,
    Dict.get?_ofList_entries]
  by_cases hName : name ∈ intrinsicNames
  · rw [if_pos hName]
  · rw [if_neg hName, record.field?_of_not_mem hName,
      Option.none_or, Option.or_self]

end Record

end LogLine

------------------------------------------------------------
-- Layers
------------------------------------------------------------

namespace LogLine

namespace Renderer

variable {renderer : Renderer}
variable {record : Record}

/-
  The value that a name has by the rule: the answer of the
  record, else the default, and no value for a name that every
  record can have.
-/
def ruledValue?
    (renderer : Renderer)
    (record : Record)
    (name : Text) :
    Option Value :=
  (record.field? name).or
    ((renderer.defaults.get? name).or
      (if name ∈ intrinsicNames then some .none else none))

/- Apart from markers only intrinsic names are always there. -/
theorem get?_baseline
    {name : Text}
    (hName : isMarker name = false) :
    (Dict.ofList renderer.baseline).get? name =
      if name ∈ intrinsicNames then some .none else none := by
  have hMarkers :
      (Dict.ofList
          ((intrinsicNames ++ renderer.defaults.keys).flatMap
            (fun field =>
              [(enterMarker field, Value.str []),
                (exitMarker field, Value.str [])]))).get? name =
        none := by
    rw [Dict.get?_ofList_eq_none_iff]
    rintro ⟨marker, value⟩ hMem rfl
    rcases List.mem_flatMap.mp hMem with ⟨field, -, hPair⟩
    simp only [List.mem_cons, List.not_mem_nil, or_false,
      Prod.mk.injEq] at hPair
    rcases hPair with ⟨rfl, -⟩ | ⟨rfl, -⟩
    · rw [isMarker_enterMarker] at hName
      cases hName
    · rw [isMarker_exitMarker] at hName
      cases hName
  have hIntrinsic :=
    Dict.get?_ofList_filterMap intrinsicNames
      (fun _ => some Value.none) name
  simp only [Option.map_some, List.filterMap_eq_map'] at hIntrinsic
  unfold baseline
  rw [Dict.get?_ofList_append, hMarkers, Option.or_none,
    hIntrinsic]

/- Under the record lie the defaults, and the baseline below. -/
theorem get?_table_eq_or
    {name : Text}
    (hName : isMarker name = false)
    (level : Level)
    (color : Bool) :
    (renderer.table level record color).get? name =
      (Dict.ofList record.fields |>.get? name).or
        ((renderer.defaults.get? name).or
          (if name ∈ intrinsicNames then some .none
            else none)) := by
  rw [get?_table_of_not_isMarker hName]
  unfold table
  rw [Dict.get?_ofList_append, Dict.get?_ofList_append,
    Dict.get?_ofList_append, Dict.get?_ofList_entries,
    get?_baseline hName]
  rfl

/- Only an exposed extra breaks the rule. -/
theorem get?_table_eq_layers
    {name : Text}
    (hName : isMarker name = false)
    (level : Level)
    (color : Bool) :
    (renderer.table level record color).get? name =
      (record.exposedExtra? name).or
        (renderer.ruledValue? record name) := by
  rw [get?_table_eq_or hName, record.get?_fields, ruledValue?,
    Record.exposedExtra?]
  cases hField : record.field? name with
  | none => rw [Option.none_or, Option.none_or]
  | some value => rfl

end Renderer

end LogLine

------------------------------------------------------------
-- Values of a Record
------------------------------------------------------------

namespace LogLine

/-
  Once colour is decided there is a table.  Its names have the
  values that the rule gives, but for extras under the names
  of absent attributes, and its markers have what the palettes
  give.
-/
theorem substitutions_expose_extras
    {renderer : Renderer}
    {color : Bool}
    (hMode : renderer.colorMode = .ok color)
    {record : Record}
    (hKeys : renderer.UnmarkedKeys record)
    (level : Level) :
    ∃ table,
      renderer.substitutions level record = .ok table ∧
      (∀ name,
        isMarker name = false →
          table.get? name =
            (record.exposedExtra? name).or
              (renderer.ruledValue? record name)) ∧
      (∀ name value,
        record.exposedExtra? name = some value ↔
          ∃ attr : Attribute,
            attr.fieldName = name ∧
            record.attributeValue? attr = none ∧
            record.extras.get? name = some value) ∧
      ∀ name ∈ intrinsicNames ++ renderer.defaults.keys,
        table.get? (enterMarker name) =
            some (.str (renderer.markText level color .enter name)) ∧
          table.get? (exitMarker name) =
            some (.str (renderer.markText level color .exit name)) := by
  refine
    ⟨renderer.table level record color, ?_, ?_,
      record.exposedExtra?_eq_some_iff, ?_⟩
  · rw [Renderer.substitutions, hMode]
    rfl
  · intro name hName
    exact Renderer.get?_table_eq_layers hName level color
  · intro name hName
    exact
      ⟨Renderer.get?_table_marker hKeys hName level color .enter,
        Renderer.get?_table_marker hKeys hName level color .exit⟩

/- A template with an attribute that records may lack. -/
def lineSettings : Settings :=
  { Settings.blank with
    templates := LevelMap.uniform "\x7blineno\x7d".toList
    palettes :=
      Dict.ofList
        [("lineno".toList, Settings.uniformColor "35")] }

/- A record without a line number, but with an extra of that name. -/
def numberedRecord : Record :=
  (Record.ofMessage .info "app".toList "ready".toList
    default).insertExtra "lineno".toList (.str "7".toList)

theorem exists_lineRenderer :
    ∃ built,
      lineSettings.build = .ok built ∧
      (built.decideColor true).2.colorMode = .ok true ∧
      (built.decideColor true).2.UnmarkedKeys numberedRecord := by
  have hRun :
      lineSettings.build.toOption.map (fun built =>
          (built.decideColor true).2.colorMode) =
        some (.ok true) := by
    decide +kernel
  simp only [Option.map_eq_some_iff, toOption_eq_some_iff] at hRun
  rcases hRun with ⟨built, hBuild, hMode⟩
  refine ⟨built, hBuild, hMode, ?_, by decide⟩
  rw [Renderer.decideColor_snd]
  show ∀ key ∈ built.defaults.keys, isMarker key = false
  rw [Settings.defaults_of_build hBuild]
  decide

/- So a record does not decide alone what its attributes show. -/
theorem extra_shows_for_absent_attribute :
    ¬ ∀ (settings : Settings) (built : Renderer)
        (supported : Bool) (level : Level) (record : Record)
        (table : Dict Value) (name : Text),
      settings.build = .ok built →
      (built.decideColor supported).2.UnmarkedKeys record →
      isMarker name = false →
      (built.decideColor supported).2.substitutions level
          record = .ok table →
      table.get? name =
        (built.decideColor supported).2.ruledValue? record
          name := by
  intro hRuled
  rcases exists_lineRenderer with ⟨built, hBuild, hMode, hKeys⟩
  have hName : isMarker "lineno".toList = false := by decide
  have hTable :
      (built.decideColor true).2.substitutions .info
          numberedRecord =
        .ok
          ((built.decideColor true).2.table .info numberedRecord
            true) := by
    rw [Renderer.substitutions, hMode]
    rfl
  have hSame :=
    hRuled lineSettings built true .info numberedRecord _ _
      hBuild hKeys hName hTable
  rw [Renderer.get?_table_eq_layers hName] at hSame
  have hExtra :
      numberedRecord.exposedExtra? "lineno".toList =
        some (.str "7".toList) := by
    decide
  have hRule :
      (built.decideColor true).2.ruledValue? numberedRecord
          "lineno".toList =
        some .none := by
    rw [Renderer.decideColor_snd]
    show
      (numberedRecord.field? "lineno".toList).or
        ((built.defaults.get? "lineno".toList).or
          (if "lineno".toList ∈ intrinsicNames then some .none
            else none)) =
        some Value.none
    rw [Settings.defaults_of_build hBuild]
    decide
  rw [hExtra, hRule] at hSame
  cases hSame

theorem substitutions_expose_extras_of_line :
    ∃ built table,
      lineSettings.build = .ok built ∧
      (built.decideColor true).2.colorMode = .ok true ∧
      (built.decideColor true).2.UnmarkedKeys numberedRecord ∧
      (built.decideColor true).2.substitutions .info
          numberedRecord = .ok table ∧
      numberedRecord.field? "lineno".toList = none ∧
      table.get? "lineno".toList = some (.str "7".toList) := by
  rcases exists_lineRenderer with ⟨built, hBuild, hMode, hKeys⟩
  rcases substitutions_expose_extras hMode hKeys .info with
    ⟨table, hTable, hNames, -, -⟩
  refine
    ⟨built, table, hBuild, hMode, hKeys, hTable, by decide, ?_⟩
  have hExtra :
      numberedRecord.exposedExtra? "lineno".toList =
        some (.str "7".toList) := by
    decide
  rw [hNames "lineno".toList (by decide), hExtra]
  rfl

end LogLine
