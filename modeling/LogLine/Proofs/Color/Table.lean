import LogLine.Renderer
import LogLine.Proofs.Dict
import LogLine.Proofs.Color.Escapes
import LogLine.Proofs.Template.MarkerPairs

/-
  The values that a record is filled in with, with and without
  colour: they differ in those of the markers only, and these
  stand for what the palettes give.

  Key definitions include:
    * `LogLine.AllowedMark`
    * `LogLine.Renderer.UnmarkedKeys`
    * `LogLine.Renderer.EscapePalettes`
    * `LogLine.Renderer.markText`

  Key theorems include:
    * `LogLine.Renderer.get?_table_of_not_isMarker`
    * `LogLine.Renderer.get?_table_marker`
-/

------------------------------------------------------------
-- Names of Markers
------------------------------------------------------------

namespace LogLine

/- The text of a marker: a run with colour, nothing without. -/
def AllowedMark : Bool → Text → Prop
  | true, mark => EscapeRun mark
  | false, mark => mark = []

theorem AllowedMark.nil
    (color : Bool) :
    AllowedMark color [] := by
  cases color with
  | false => exact rfl
  | true => exact EscapeRun.nil

theorem isMarker_of_mem_intrinsicNames :
    ∀ name ∈ intrinsicNames, isMarker name = false := by
  decide +kernel

namespace Renderer

/- No default and no extra has the name of a marker. -/
structure UnmarkedKeys
    (renderer : Renderer)
    (record : Record) : Prop where
  defaults :
    ∀ key ∈ renderer.defaults.keys, isMarker key = false
  extras :
    ∀ key ∈ record.extras.keys, isMarker key = false

/- The palettes hold escape sequences and nothing else. -/
def EscapePalettes
    (renderer : Renderer) : Prop :=
  ∀ field palette,
    (field, palette) ∈ renderer.palettes.entries →
      ∀ level, EscapeRun (palette.enter level)

end Renderer

end LogLine

------------------------------------------------------------
-- Layers of a Table
------------------------------------------------------------

namespace LogLine

theorem Dict.fst_mem_keys
    {α : Type}
    {dict : Dict α}
    {key : Text}
    {value : α}
    (hMem : (key, value) ∈ dict.entries) :
    key ∈ dict.keys :=
  List.mem_map.mpr ⟨(key, value), hMem, rfl⟩

theorem Record.isMarker_of_mem_fields
    {record : Record}
    (hExtras :
      ∀ key ∈ record.extras.keys, isMarker key = false)
    {key : Text}
    {value : Value}
    (hMem : (key, value) ∈ record.fields) :
    isMarker key = false := by
  unfold fields at hMem
  rcases List.mem_append.mp hMem with hExtra | hAttribute
  · exact hExtras key (Dict.fst_mem_keys hExtra)
  · rcases List.mem_filterMap.mp hAttribute with
      ⟨name, hName, hField⟩
    rcases Option.map_eq_some_iff.mp hField with
      ⟨found, -, hPair⟩
    cases hPair
    exact isMarker_of_mem_intrinsicNames key hName

/- What a palette puts on a side of a span. -/
def SpanSide.text : SpanSide → Palette → Level → Text
  | enter => Palette.enter
  | exit => Palette.exit

namespace Renderer

variable {renderer : Renderer}
variable {record : Record}

theorem mem_paletteMarkers_iff
    (renderer : Renderer)
    (level : Level)
    (key : Text)
    (value : Value) :
    (key, value) ∈ renderer.paletteMarkers level ↔
      ∃ side field palette,
        renderer.palettes.get? field = some palette ∧
        key = SpanSide.marker side field ∧
        value = .str (side.text palette level) := by
  unfold paletteMarkers
  rw [List.mem_flatMap]
  constructor
  · rintro ⟨⟨field, palette⟩, hEntry, hPair⟩
    have hFound := (Dict.get?_eq_some_iff _ _ _).mpr hEntry
    simp only [List.mem_cons, List.not_mem_nil, or_false,
      Prod.mk.injEq] at hPair
    rcases hPair with hEnter | hExit
    · exact ⟨.enter, field, palette, hFound, hEnter⟩
    · exact ⟨.exit, field, palette, hFound, hExit⟩
  · rintro ⟨side, field, palette, hFound, rfl, rfl⟩
    refine
      ⟨(field, palette),
        (Dict.get?_eq_some_iff _ _ _).mp hFound, ?_⟩
    cases side with
    | enter => exact List.mem_cons_self
    | exit => exact List.mem_cons_of_mem _ List.mem_cons_self

theorem isMarker_of_mem_paletteMarkers
    {level : Level}
    {key : Text}
    {value : Value}
    (hMem : (key, value) ∈ renderer.paletteMarkers level) :
    isMarker key = true := by
  rcases (renderer.mem_paletteMarkers_iff level key value).mp
      hMem with
    ⟨side, field, palette, -, rfl, -⟩
  exact side.isMarker_marker field

theorem mem_baseline
    {key : Text}
    {value : Value}
    (hMem : (key, value) ∈ renderer.baseline)
    (hMarker : isMarker key = true) :
    value = .str [] := by
  unfold baseline at hMem
  rcases List.mem_append.mp hMem with hPair | hNone
  · rcases List.mem_flatMap.mp hPair with ⟨name, -, hName⟩
    simp only [List.mem_cons, List.not_mem_nil, or_false]
      at hName
    rcases hName with hEnter | hExit
    · cases hEnter
      rfl
    · cases hExit
      rfl
  · rcases List.mem_map.mp hNone with ⟨name, hName, hPair⟩
    cases hPair
    have hOther := isMarker_of_mem_intrinsicNames key hName
    rw [hMarker] at hOther
    cases hOther

/- Both markers of every name that templates can use are there. -/
theorem marker_mem_baseline
    {name : Text}
    (hName : name ∈ intrinsicNames ++ renderer.defaults.keys)
    (side : SpanSide) :
    (side.marker name, .str []) ∈ renderer.baseline := by
  unfold baseline
  apply List.mem_append_left
  rw [List.mem_flatMap]
  refine ⟨name, hName, ?_⟩
  cases side with
  | enter => exact List.mem_cons_self
  | exit => exact List.mem_cons_of_mem _ List.mem_cons_self

/- Colour changes the values of markers only. -/
theorem get?_table_of_not_isMarker
    {name : Text}
    (hName : isMarker name = false)
    (level : Level)
    (color : Bool) :
    (renderer.table level record color).get? name =
      (renderer.table level record false).get? name := by
  have hPalettes :
      (Dict.ofList
        (if color then renderer.paletteMarkers level
          else [])).get? name = none := by
    rw [Dict.get?_ofList_eq_none_iff]
    rintro ⟨key, value⟩ hMem hKey
    cases color with
    | false => cases hMem
    | true =>
        have hMarker := isMarker_of_mem_paletteMarkers hMem
        have hSame : key = name := hKey
        rw [hSame, hName] at hMarker
        cases hMarker
  have hNone :
      (Dict.ofList ([] : List (Text × Value))).get? name =
        none :=
    rfl
  unfold table
  simp only [Dict.get?_ofList_append, hPalettes,
    Bool.false_eq_true, if_false, hNone]

/- Under the name of a marker stands what the palettes give. -/
theorem get?_table_of_isMarker
    (hKeys : renderer.UnmarkedKeys record)
    {marker : Text}
    (hMarker : isMarker marker = true)
    (hMem : (marker, .str []) ∈ renderer.baseline)
    (level : Level)
    (color : Bool) :
    (renderer.table level record color).get? marker =
      ((Dict.ofList
        (if color then renderer.paletteMarkers level
          else [])).get? marker).or
        (some (.str [])) := by
  have hBaseline :
      (Dict.ofList renderer.baseline).get? marker =
        some (.str []) :=
    Dict.get?_ofList_of_unique hMem
      (fun _ hOther => mem_baseline hOther hMarker)
  have hDefaults :
      (Dict.ofList renderer.defaults.entries).get? marker =
        none := by
    rw [Dict.get?_ofList_eq_none_iff]
    rintro ⟨key, value⟩ hEntry rfl
    have hOther := hKeys.defaults key (Dict.fst_mem_keys hEntry)
    rw [hMarker] at hOther
    cases hOther
  have hFields :
      (Dict.ofList record.fields).get? marker = none := by
    rw [Dict.get?_ofList_eq_none_iff]
    rintro ⟨key, value⟩ hEntry rfl
    have hOther :=
      Record.isMarker_of_mem_fields hKeys.extras hEntry
    rw [hMarker] at hOther
    cases hOther
  unfold table
  rw [Dict.get?_ofList_append, Dict.get?_ofList_append,
    Dict.get?_ofList_append, hFields, hDefaults, hBaseline,
    Option.none_or, Option.none_or]

/- What stands on a side of the span of a name. -/
def markText
    (renderer : Renderer)
    (level : Level)
    (color : Bool)
    (side : SpanSide)
    (name : Text) :
    Text :=
  match color, renderer.palettes.get? name with
  | true, some palette => side.text palette level
  | _, _ => []

/- Every palette gives the markers of its own name. -/
theorem get?_paletteMarkers
    (renderer : Renderer)
    (level : Level)
    (side : SpanSide)
    (name : Text) :
    (Dict.ofList (renderer.paletteMarkers level)).get?
        (side.marker name) =
      (renderer.palettes.get? name).map
        (fun palette => .str (side.text palette level)) := by
  cases hPalette : renderer.palettes.get? name with
  | none =>
      rw [Option.map_none, Dict.get?_ofList_eq_none_iff]
      rintro ⟨key, value⟩ hMem hKey
      rcases (renderer.mem_paletteMarkers_iff level key value).mp
          hMem with
        ⟨other, field, palette, hFound, rfl, -⟩
      rcases SpanSide.marker_injective hKey with ⟨-, rfl⟩
      rw [hPalette] at hFound
      cases hFound
  | some palette =>
      apply Dict.get?_ofList_of_unique
      · rw [mem_paletteMarkers_iff]
        exact ⟨side, name, palette, hPalette, rfl, rfl⟩
      · intro value hMem
        rcases (renderer.mem_paletteMarkers_iff level _ value).mp
            hMem with
          ⟨other, field, found, hFound, hKey, rfl⟩
        rcases SpanSide.marker_injective hKey with ⟨rfl, rfl⟩
        rw [hPalette, Option.some.injEq] at hFound
        rw [hFound]

/- A marker stands for what its palette puts on its side. -/
theorem get?_table_marker
    (hKeys : renderer.UnmarkedKeys record)
    {name : Text}
    (hName : name ∈ intrinsicNames ++ renderer.defaults.keys)
    (level : Level)
    (color : Bool)
    (side : SpanSide) :
    (renderer.table level record color).get?
        (side.marker name) =
      some (.str (renderer.markText level color side name)) := by
  rw [get?_table_of_isMarker hKeys (side.isMarker_marker name)
    (marker_mem_baseline hName side)]
  unfold markText
  cases color with
  | false => rfl
  | true =>
      rw [if_pos rfl, get?_paletteMarkers]
      cases renderer.palettes.get? name with
      | none => rfl
      | some palette => rfl

/- Colour allows what the palettes give. -/
theorem allowedMark_markText
    (hPalettes : renderer.EscapePalettes)
    (level : Level)
    (color : Bool)
    (side : SpanSide)
    (name : Text) :
    AllowedMark color
      (renderer.markText level color side name) := by
  unfold markText
  cases color with
  | false => exact AllowedMark.nil false
  | true =>
      cases hPalette : renderer.palettes.get? name with
      | none => exact AllowedMark.nil true
      | some palette =>
          have hEntry :=
            (Dict.get?_eq_some_iff _ _ _).mp hPalette
          cases side with
          | enter => exact hPalettes name palette hEntry level
          | exit => exact palette.escapeRun_exit level

end Renderer

end LogLine
