import LogLine.Config
import LogLine.Proofs.Dict
import LogLine.Proofs.LevelMap
import Mathlib.Data.List.Forall2

/-
  Trees that configurations are written as, and the decoder that
  reads all of them back.

  Key definitions include:
    * `LogLine.Config.WrittenLevels`
    * `LogLine.Config.WrittenColor`
    * `LogLine.Config.Written`
    * `LogLine.Config.Undoes`

  Key theorems include:
    * `LogLine.Config.Undoes.levelMap?`
    * `LogLine.Config.Undoes.dict?`
    * `LogLine.Config.ofNode?_of_written`
    * `LogLine.Config.written_toNode`
    * `LogLine.decoding_undoes_encoding`

  One configuration is written in many ways: level maps as
  mappings or as one value alone, codes as texts or as numbers,
  and mappings in any order.
-/

------------------------------------------------------------
-- Written Values
------------------------------------------------------------

namespace LogLine

namespace Config

open Yaml

variable {α κ : Type}

def WrittenText
    (text : Text)
    (node : Node) : Prop :=
  node = Node.quoted text

/- A default value is a scalar of its kind. -/
inductive WrittenValue : Value → Node → Prop where
  | text (text : Text) :
      WrittenValue (.str text) (Node.quoted text)
  | int (source : Text) (n : Int64) :
      WrittenValue (.int n) (.scalar source (.int n.toInt))
  | float (source : Text) (x : Binary64) :
      WrittenValue (.float x) (.scalar source (.float x))
  | null (source : Text) :
      WrittenValue .none (.scalar source .null)

/- A code is a text, or the number of 32 bits that it shows. -/
inductive WrittenCode : Text → Node → Prop where
  | text (code : Text) :
      WrittenCode code (Node.quoted code)
  | number (source : Text) (n : Nat) (hBits : n < Nat.pow 2 32) :
      WrittenCode (Text.ofNat n) (.scalar source (.int n))

/- A colour is a code or a list of codes. -/
inductive WrittenColor : Color → Node → Prop where
  | code {code : Text} {node : Node}
      (hCode : WrittenCode code node) :
      WrittenColor (.code code) node
  | codes {codes : List Text} {nodes : List Node}
      (hCodes : List.Forall₂ WrittenCode codes nodes) :
      WrittenColor (.codes codes) (.list nodes)

/- Pairs are the entries of a mapping, in any order. -/
inductive WrittenMapping
    (keyNode : κ → Node)
    (written : α → Node → Prop)
    (pairs : List (κ × α)) : Node → Prop where
  | intro {order : List (κ × α)} {entries : List (Node × Node)}
      (hOrder : order.Perm pairs)
      (hEntries :
        List.Forall₂
          (fun pair entry =>
            entry.1 = keyNode pair.1 ∧ written pair.2 entry.2)
          order entries) :
      WrittenMapping keyNode written pairs (.map entries)

/-
  A level map is a mapping of the slots that are stored; one
  that holds no more than a default can be that value alone.
-/
inductive WrittenLevels
    (written : α → Node → Prop) : LevelMap α → Node → Prop where
  | alone {value : α} {node : Node}
      (hValue : written value node) :
      WrittenLevels written (LevelMap.uniform value) node
  | slots {map : LevelMap α} {node : Node}
      (hSlots :
        WrittenMapping (fun slot : Slot => keyNode slot.key)
          written map.slots node) :
      WrittenLevels written map node

def WrittenDict
    (written : α → Node → Prop)
    (dict : Dict α)
    (node : Node) : Prop :=
  WrittenMapping Node.quoted written dict.entries node

/- An absent value is a null. -/
inductive WrittenOption
    (written : α → Node → Prop) : Option α → Node → Prop where
  | some {value : α} {node : Node}
      (hValue : written value node) :
      WrittenOption written (some value) node
  | none (source : Text) :
      WrittenOption written none (.scalar source .null)

def WrittenBool
    (value : Bool)
    (node : Node) : Prop :=
  ∃ source, node = .scalar source (.bool value)

end Config

end LogLine

------------------------------------------------------------
-- Written Configurations
------------------------------------------------------------

namespace LogLine

namespace Config

open Yaml

variable {α : Type}

/- A key has a written value, or is left out for what then holds. -/
inductive WrittenEntry
    (written : α → Node → Prop)
    (fallback : α)
    (entries : List (Text × Node))
    (key : String) : α → Prop where
  | present {value : α} {node : Node}
      (hMem : (key.toList, node) ∈ entries)
      (hValue : written value node) :
      WrittenEntry written fallback entries key value
  | absent (hNone : ∀ node, (key.toList, node) ∉ entries) :
      WrittenEntry written fallback entries key fallback

/- The entries of a mapping that is a configuration. -/
structure WrittenEntries
    (config : Config)
    (entries : List (Text × Node)) : Prop where
  known : ∀ entry ∈ entries, ∃ key ∈ keys, entry.1 = key.toList
  nodup : (entries.map Prod.fst).Nodup
  templates :
    ∃ node,
      ("templates".toList, node) ∈ entries ∧
        WrittenLevels WrittenText config.templates node
  backups :
    WrittenEntry (WrittenOption (WrittenLevels WrittenText)) none
      entries "backup_templates" config.backups
  deriveBackup :
    WrittenEntry WrittenBool true entries "derive_backup"
      config.deriveBackup
  datePattern :
    WrittenEntry (WrittenOption WrittenText) none entries
      "datefmt" config.datePattern
  defaults :
    WrittenEntry (WrittenDict WrittenValue) Dict.empty entries
      "defaults" config.defaults
  forceColor :
    WrittenEntry WrittenBool false entries "force_color"
      config.forceColor
  palettes :
    WrittenEntry (WrittenDict (WrittenLevels WrittenColor))
      Dict.empty entries "palettes" config.palettes

/- A tree that a configuration is written as. -/
def Written
    (config : Config)
    (node : Node) : Prop :=
  ∃ entries,
    node =
        .map (entries.map fun entry : Text × Node =>
          (Node.quoted entry.1, entry.2)) ∧
      config.WrittenEntries entries

end Config

end LogLine

------------------------------------------------------------
-- Decoding Values
------------------------------------------------------------

namespace LogLine

/- What elements are read as is what their list is read as. -/
theorem exists_mapM_of_forall₂
    {α β γ : Type}
    {decode : β → Option γ}
    {Reads : α → γ → Prop}
    {xs : List α}
    {ys : List β}
    (hAll :
      List.Forall₂
        (fun x y => ∃ z, decode y = some z ∧ Reads x z) xs ys) :
    ∃ zs, ys.mapM decode = some zs ∧ List.Forall₂ Reads xs zs := by
  induction hAll with
  | nil => exact ⟨[], rfl, .nil⟩
  | cons hFirst _ ih =>
      rcases hFirst with ⟨z, hDecode, hReads⟩
      rcases ih with ⟨zs, hRest, hAll⟩
      refine ⟨z :: zs, ?_, .cons hReads hAll⟩
      rw [List.mapM_cons, hDecode, hRest]
      rfl

theorem mapM_eq_some_of_forall₂
    {α β : Type}
    {decode : β → Option α}
    {xs : List α}
    {ys : List β}
    (hAll : List.Forall₂ (fun x y => decode y = some x) xs ys) :
    ys.mapM decode = some xs := by
  have hRead :
      ∃ zs, ys.mapM decode = some zs ∧ List.Forall₂ Eq xs zs :=
    exists_mapM_of_forall₂
      (hAll.imp fun x y hDecode => ⟨x, hDecode, rfl⟩)
  rcases hRead with ⟨zs, hMap, hSame⟩
  rw [List.forall₂_eq_eq_eq] at hSame
  rw [hMap, hSame]

namespace Config

open Yaml

variable {α : Type}

def isNull : Node → Bool
  | .scalar _ .null => true
  | _ => false

/-
  A decoder gives back what is written, and nothing is written
  as the null that stands for an absent value.
-/
structure Undoes
    (decode : Node → Option α)
    (written : α → Node → Prop) : Prop where
  reads :
    ∀ value node, written value node → decode node = some value
  notNull :
    ∀ value node, written value node → isNull node = false

theorem optional?_of_not_isNull
    (decode : Node → Option α)
    {node : Node}
    (hNull : isNull node = false) :
    optional? decode node = (decode node).map some := by
  cases node with
  | scalar source value =>
      cases value with
      | null => cases hNull
      | bool value => rfl
      | int n => rfl
      | float x => rfl
      | text text => rfl
  | list items => rfl
  | map entries => rfl

theorem Undoes.optional?
    {decode : Node → Option α}
    {written : α → Node → Prop}
    (hUndoes : Undoes decode written)
    (value : Option α)
    (node : Node)
    (hValue : WrittenOption written value node) :
    optional? decode node = some value := by
  cases hValue with
  | some hValue =>
      rw [optional?_of_not_isNull decode
          (hUndoes.notNull _ _ hValue),
        hUndoes.reads _ _ hValue]
      rfl
  | none source => rfl

theorem undoes_text :
    Undoes text? WrittenText where
  reads := by
    rintro text node rfl
    rfl
  notNull := by
    rintro text node rfl
    rfl

theorem undoes_source :
    Undoes source? WrittenText where
  reads := by
    rintro text node rfl
    rfl
  notNull := by
    rintro text node rfl
    rfl

theorem bool?_of_written
    (value : Bool)
    (node : Node)
    (hValue : WrittenBool value node) :
    bool? node = some value := by
  rcases hValue with ⟨source, rfl⟩
  rfl

theorem value?_of_written
    (value : Value)
    (node : Node)
    (hValue : WrittenValue value node) :
    value? node = some value := by
  cases hValue with
  | text text => rfl
  | int source n =>
      have hFits : Value.fitsInt n.toInt = true := by
        have hLow := n.le_toInt
        have hHigh := n.toInt_lt
        unfold Value.fitsInt
        rw [Bool.and_eq_true, decide_eq_true_eq,
          decide_eq_true_eq]
        omega
      simp only [value?]
      rw [if_pos hFits, Int64.ofInt_toInt]
  | float source x => rfl
  | null source => rfl

theorem code?_of_written
    (code : Text)
    (node : Node)
    (hCode : WrittenCode code node) :
    code? node = some code := by
  cases hCode with
  | text code => rfl
  | number source n hBits =>
      have hRange : (0 : Int) ≤ n ∧ (n : Int) < Int.pow 2 32 :=
        ⟨Int.natCast_nonneg n, Int.ofNat_lt.mpr hBits⟩
      have hText : Text.ofInt n = Text.ofNat n := by
        unfold Text.ofInt
        rw [if_neg (by omega), Int.natAbs_natCast]
      simp only [code?]
      rw [if_pos hRange, hText]

theorem undoes_color :
    Undoes color? WrittenColor where
  reads := by
    intro color node hColor
    cases hColor with
    | code hCode =>
        have hRead := code?_of_written _ _ hCode
        cases hCode with
        | text code => rfl
        | number source n hBits =>
            simp only [color?]
            rw [hRead, Option.map_some]
    | codes hCodes =>
        have hRead :=
          mapM_eq_some_of_forall₂
            (hCodes.imp code?_of_written)
        simp only [color?]
        rw [hRead, Option.map_some]
  notNull := by
    intro color node hColor
    cases hColor with
    | code hCode =>
        cases hCode with
        | text code => rfl
        | number source n hBits => rfl
    | codes hCodes => rfl

end Config

end LogLine

------------------------------------------------------------
-- Decoding Level Maps
------------------------------------------------------------

namespace LogLine

/- Without equal keys, what stands under a key is found. -/
theorem lookup_eq_some_iff_mem
    {κ β : Type}
    [BEq κ]
    [LawfulBEq κ]
    {pairs : List (κ × β)}
    (hNodup : (pairs.map Prod.fst).Nodup)
    (key : κ)
    (value : β) :
    pairs.lookup key = some value ↔ (key, value) ∈ pairs := by
  induction pairs with
  | nil => simp
  | cons pair pairs ih =>
      rcases pair with ⟨stored, first⟩
      rw [List.map_cons, List.nodup_cons] at hNodup
      rcases hNodup with ⟨hNew, hRest⟩
      rw [List.lookup_cons, List.mem_cons, Prod.mk.injEq]
      by_cases hKey : key = stored
      · subst hKey
        have hLater : (key, value) ∉ pairs := fun hMem =>
          hNew (List.mem_map.mpr ⟨_, hMem, rfl⟩)
        simp [hLater, eq_comm]
      · have hOther : (key == stored) = false := by
          rw [beq_eq_false_iff_ne]
          exact hKey
        rw [hOther]
        simp [hKey, ih hRest]

theorem lookup_eq_none_of_not_mem
    {κ β : Type}
    [BEq κ]
    [LawfulBEq κ]
    {pairs : List (κ × β)}
    {key : κ}
    (hNone : ∀ value, (key, value) ∉ pairs) :
    pairs.lookup key = none := by
  rw [List.lookup_eq_none_iff]
  rintro ⟨other, value⟩ hMem
  rw [bne_iff_ne]
  rintro rfl
  exact hNone value hMem

namespace Config

open Yaml

variable {α : Type}
variable {decode : Node → Option α}
variable {written : α → Node → Prop}

theorem slot?_keyNode
    (slot : Slot) :
    slot? (keyNode slot.key) = some slot := by
  cases slot with
  | level level => cases level <;> decide
  | default => decide

/- Slots that stand once each are all read. -/
theorem Undoes.slotEntries?
    (hUndoes : Undoes decode written)
    {order : List (Slot × α)}
    {entries : List (Node × Node)}
    (hEntries :
      List.Forall₂
        (fun pair entry =>
          entry.1 = keyNode pair.1.key ∧ written pair.2 entry.2)
        order entries)
    (hNodup : (order.map Prod.fst).Nodup) :
    slotEntries? decode entries =
      some (order.map fun pair => (pair.1, some pair.2)) := by
  induction hEntries with
  | nil => rfl
  | @cons pair entry order entries hFirst _ ih =>
      rw [List.map_cons, List.nodup_cons] at hNodup
      rcases hNodup with ⟨hNew, hRest⟩
      rcases entry with ⟨key, node⟩
      rcases hFirst with ⟨rfl, hValue⟩
      have hRead := hUndoes.optional? _ _ (.some hValue)
      have hOnce :
          (order.map fun pair => (pair.1, some pair.2)).lookup
              pair.1 =
            none := by
        apply lookup_eq_none_of_not_mem
        intro value hMem
        rcases List.mem_map.mp hMem with ⟨other, hOther, hSame⟩
        rw [Prod.mk.injEq] at hSame
        rw [← hSame.1] at hNew
        exact hNew (List.mem_map_of_mem hOther)
      unfold Config.slotEntries?
      rw [slot?_keyNode, hRead, ih hRest]
      simp only [Option.bind_eq_bind, Option.bind_some, hOnce]
      rfl

theorem ofSlots_map_some
    (order : List (Slot × α)) :
    ofSlots (order.map fun pair => (pair.1, some pair.2)) =
      LevelMap.empty.storeAll order := by
  unfold ofSlots LevelMap.storeAll
  rw [List.foldl_map]

/- The slots of a map, in any order, make the map again. -/
theorem ofSlots_eq_of_perm
    {order : List (Slot × α)}
    {map : LevelMap α}
    (hOrder : order.Perm map.slots) :
    ofSlots (order.map fun pair => (pair.1, some pair.2)) =
      map := by
  have hNodup : (order.map Prod.fst).Nodup :=
    (hOrder.map Prod.fst).nodup_iff.mpr map.nodup_slots
  rw [ofSlots_map_some]
  apply LevelMap.ext_stored?
  intro slot
  apply Option.ext
  intro value
  rw [LevelMap.stored?_storeAll_empty,
    LevelMap.lastStored?_eq_some_iff hNodup, hOrder.mem_iff,
    LevelMap.mem_slots_iff]

/-
  Level maps are read back if no mapping is taken for a value
  alone.
-/
theorem Undoes.levels
    (hUndoes : Undoes decode written)
    (hMapping : ∀ entries, decode (.map entries) = none) :
    Undoes (levelMap? decode) (WrittenLevels written) where
  reads := by
    intro map node hLevels
    unfold levelMap?
    cases hLevels with
    | alone hValue => rw [hUndoes.reads _ _ hValue]
    | slots hSlots =>
        rcases hSlots with ⟨hOrder, hEntries⟩
        have hNodup :=
          (hOrder.map Prod.fst).nodup_iff.mpr map.nodup_slots
        rw [hMapping]
        show (Config.slotEntries? decode _).map ofSlots = _
        rw [hUndoes.slotEntries? hEntries hNodup,
          Option.map_some, ofSlots_eq_of_perm hOrder]
  notNull := by
    intro map node hLevels
    cases hLevels with
    | alone hValue => exact hUndoes.notNull _ _ hValue
    | slots hSlots =>
        rcases hSlots with ⟨-, -⟩
        rfl

end Config

end LogLine

------------------------------------------------------------
-- Decoding Configurations
------------------------------------------------------------

namespace LogLine

namespace Config

open Yaml

variable {α : Type}
variable {decode : Node → Option α}
variable {written : α → Node → Prop}

theorem dict?_of_written
    (hReads :
      ∀ value node,
        written value node → decode node = some value)
    (dict : Dict α)
    (node : Node)
    (hDict : WrittenDict written dict node) :
    dict? decode node = some dict := by
  rcases hDict with ⟨hOrder, hEntries⟩
  rename_i order entries
  have hTexts :
      ∃ texts,
        textEntries? (.map entries) = some texts ∧
          List.Forall₂
            (fun (pair : Text × α) (text : Text × Node) =>
              (decode text.2).map (fun value => (text.1, value)) =
                some pair)
            order texts := by
    apply exists_mapM_of_forall₂
    refine hEntries.imp ?_
    rintro ⟨key, value⟩ ⟨_, node⟩ ⟨rfl, hValue⟩
    refine ⟨(key, node), rfl, ?_⟩
    rw [hReads _ _ hValue]
    rfl
  rcases hTexts with ⟨texts, hTexts, hValues⟩
  unfold dict?
  simp only [hTexts, Option.bind_eq_bind, Option.bind_some]
  rw [mapM_eq_some_of_forall₂ hValues]
  exact congrArg some (Dict.ofList_eq_of_perm hOrder)

theorem entryD_of_written
    {entries : List (Text × Node)}
    (hNodup : (entries.map Prod.fst).Nodup)
    (hReads :
      ∀ value node,
        written value node → decode node = some value)
    {key : String}
    {fallback value : α}
    (hEntry : WrittenEntry written fallback entries key value) :
    entryD entries key decode fallback = some value := by
  unfold entryD
  cases hEntry with
  | present hMem hValue =>
      rw [(lookup_eq_some_iff_mem hNodup _ _).mpr hMem]
      exact hReads _ _ hValue
  | absent hNone => rw [lookup_eq_none_of_not_mem hNone]

theorem textEntries?_quoted
    (entries : List (Text × Node)) :
    textEntries?
        (.map (entries.map fun entry =>
          (Node.quoted entry.1, entry.2))) =
      some entries := by
  apply mapM_eq_some_of_forall₂
  rw [List.forall₂_map_right_iff, List.forall₂_same]
  exact fun entry hMem => rfl

theorem WrittenEntries.hasValidKeys
    {config : Config}
    {entries : List (Text × Node)}
    (hWritten : config.WrittenEntries entries) :
    hasValidKeys entries = true := by
  unfold Config.hasValidKeys
  rw [Bool.and_eq_true, decide_eq_true_eq, List.all_eq_true]
  refine ⟨?_, hWritten.nodup⟩
  intro word hMem
  rcases List.mem_map.mp hMem with ⟨entry, hEntry, rfl⟩
  rcases hWritten.known entry hEntry with ⟨key, hKey, hSame⟩
  rw [List.any_eq_true]
  exact ⟨key, hKey, beq_iff_eq.mpr hSame.symm⟩

/- A tree that a configuration is written as is read as that. -/
theorem ofNode?_of_written
    {config : Config}
    {node : Node}
    (hWritten : config.Written node) :
    ofNode? node = some config := by
  rcases hWritten with ⟨entries, rfl, hEntries⟩
  have hNodup := hEntries.nodup
  have hLevels : Undoes (levelMap? text?) (WrittenLevels WrittenText) :=
    undoes_text.levels fun _ => rfl
  have hColors :
      Undoes (levelMap? color?) (WrittenLevels WrittenColor) :=
    undoes_color.levels fun _ => rfl
  rcases hEntries.templates with ⟨templates, hMem, hTemplates⟩
  have hFound :=
    (lookup_eq_some_iff_mem hNodup _ _).mpr hMem
  have hBackups :=
    entryD_of_written hNodup hLevels.optional? hEntries.backups
  have hDerive :=
    entryD_of_written hNodup bool?_of_written
      hEntries.deriveBackup
  have hDate :=
    entryD_of_written hNodup undoes_source.optional?
      hEntries.datePattern
  have hDefaults :=
    entryD_of_written hNodup
      (dict?_of_written value?_of_written) hEntries.defaults
  have hForce :=
    entryD_of_written hNodup bool?_of_written
      hEntries.forceColor
  have hPalettes :=
    entryD_of_written hNodup (dict?_of_written hColors.reads)
      hEntries.palettes
  unfold ofNode?
  rw [textEntries?_quoted]
  simp only [Option.bind_eq_bind, Option.bind_some,
    hEntries.hasValidKeys, if_true, hFound,
    hLevels.reads _ _ hTemplates, hBackups, hDerive, hDate,
    hDefaults, hForce, hPalettes]
  rfl

end Config

end LogLine

------------------------------------------------------------
-- Encoding
------------------------------------------------------------

namespace LogLine

namespace Config

open Yaml

variable {α κ : Type}
variable {encode : α → Node}
variable {written : α → Node → Prop}

theorem writtenMapping_map
    (keyNode : κ → Node)
    (hValue : ∀ value, written value (encode value))
    (pairs : List (κ × α)) :
    WrittenMapping keyNode written pairs
      (.map (pairs.map fun pair =>
        (keyNode pair.1, encode pair.2))) := by
  refine .intro (List.Perm.refl pairs) ?_
  rw [List.forall₂_map_right_iff, List.forall₂_same]
  exact fun pair _ => ⟨rfl, hValue pair.2⟩

theorem writtenLevels_levelMapNode
    (hValue : ∀ value, written value (encode value))
    (map : LevelMap α) :
    WrittenLevels written map (levelMapNode encode map) :=
  .slots (writtenMapping_map _ hValue map.slots)

theorem writtenDict_dictNode
    (hValue : ∀ value, written value (encode value))
    (dict : Dict α) :
    WrittenDict written dict (dictNode encode dict) :=
  writtenMapping_map _ hValue dict.entries

theorem writtenOption_optionNode
    (hValue : ∀ value, written value (encode value))
    (value : Option α) :
    WrittenOption written value (optionNode encode value) := by
  cases value with
  | some value => exact .some (hValue value)
  | none => exact .none _

theorem writtenValue_valueNode
    (value : Value) :
    WrittenValue value (valueNode value) := by
  cases value with
  | str text => exact .text text
  | int n => exact .int _ n
  | float x => exact .float _ x
  | none => exact .null _

theorem writtenBool_boolNode
    (value : Bool) :
    WrittenBool value (boolNode value) :=
  ⟨_, rfl⟩

theorem writtenColor_colorNode
    (color : Color) :
    WrittenColor color (colorNode color) := by
  cases color with
  | code code => exact .code (.text code)
  | codes codes =>
      refine .codes ?_
      rw [List.forall₂_map_right_iff, List.forall₂_same]
      exact fun code _ => .text code

/- Encoding is one way of writing a configuration. -/
theorem written_toNode
    (config : Config) :
    config.Written config.toNode := by
  have hText : ∀ text, WrittenText text (Node.quoted text) :=
    fun text => rfl
  have hLevels :=
    fun map : LevelMap Text => writtenLevels_levelMapNode hText map
  have hColors :=
    fun map : LevelMap Color =>
      writtenLevels_levelMapNode writtenColor_colorNode map
  refine
    ⟨[("templates".toList, levelMapNode Node.quoted config.templates),
       ("backup_templates".toList,
         optionNode (levelMapNode Node.quoted) config.backups),
       ("derive_backup".toList, boolNode config.deriveBackup),
       ("datefmt".toList,
         optionNode Node.quoted config.datePattern),
       ("defaults".toList, dictNode valueNode config.defaults),
       ("force_color".toList, boolNode config.forceColor),
       ("palettes".toList,
         dictNode (levelMapNode colorNode) config.palettes)],
      rfl, ?_⟩
  exact {
    known := by simp [keys]
    nodup := by
      show (keys.map String.toList).Nodup
      decide
    templates := ⟨_, by simp, hLevels config.templates⟩
    backups :=
      .present (by simp)
        (writtenOption_optionNode hLevels config.backups)
    deriveBackup := .present (by simp) (writtenBool_boolNode _)
    datePattern :=
      .present (by simp)
        (writtenOption_optionNode hText config.datePattern)
    defaults :=
      .present (by simp)
        (writtenDict_dictNode writtenValue_valueNode
          config.defaults)
    forceColor := .present (by simp) (writtenBool_boolNode _)
    palettes :=
      .present (by simp)
        (writtenDict_dictNode hColors config.palettes) }

end Config

/-
  Every tree that a configuration is written as gives it back
  when it is decoded, and the encoded one is such a tree.
-/
theorem decoding_undoes_encoding
    (config : Config) :
    (∀ node,
      config.Written node → Config.ofNode? node = some config) ∧
    config.Written config.toNode :=
  ⟨fun _ => Config.ofNode?_of_written, config.written_toNode⟩

section

open Yaml

/- Colours for errors and all else, and a list of codes. -/
def paletteConfig : Config where
  templates := LevelMap.uniform "\x7bmessage\x7d".toList
  backups := none
  deriveBackup := false
  datePattern := none
  defaults := Dict.empty
  forceColor := false
  palettes :=
    Dict.ofList
      [("name".toList,
         LevelMap.uniform
           (.codes [Text.ofNat 1, "35".toList])),
       ("levelname".toList,
         (LevelMap.uniform (Color.ofNat 34)).set .error
           (.code "31;1".toList))]

/- A value for all levels alone, and codes by number. -/
def paletteEntries : List (Text × Node) :=
  [("palettes".toList,
     .map
       [(Node.quoted "name".toList,
          .list [.scalar ['1'] (.int 1), Node.quoted "35".toList]),
        (Node.quoted "levelname".toList,
          .map
            [(Config.keyNode "default",
               .scalar "34".toList (.int 34)),
             (Config.keyNode "error",
               Node.quoted "31;1".toList)])]),
   ("templates".toList, Node.quoted "\x7bmessage\x7d".toList),
   ("derive_backup".toList, Config.boolNode false)]

theorem writtenEntries_palette :
    paletteConfig.WrittenEntries paletteEntries := by
  have hNumbers :
      Config.WrittenLevels Config.WrittenColor
        (LevelMap.uniform (.codes [Text.ofNat 1, "35".toList]))
        (.list
          [.scalar ['1'] (.int 1), Node.quoted "35".toList]) :=
    .alone
      (.codes
        (.cons (.number _ 1 (by decide))
          (.cons (.text _) .nil)))
  have hLevels :
      Config.WrittenLevels Config.WrittenColor
        ((LevelMap.uniform (Color.ofNat 34)).set .error
          (.code "31;1".toList))
        (.map
          [(Config.keyNode "default",
             .scalar "34".toList (.int 34)),
           (Config.keyNode "error",
             Node.quoted "31;1".toList)]) := by
    refine .slots (.intro (List.Perm.swap _ _ []) ?_)
    exact
      .cons ⟨rfl, .code (.number _ 34 (by decide))⟩
        (.cons ⟨rfl, .code (.text _)⟩ .nil)
  exact {
    known := by decide
    nodup := by decide
    templates := ⟨_, by simp [paletteEntries], .alone rfl⟩
    backups := .absent (by simp [paletteEntries])
    deriveBackup :=
      .present (.tail _ (.tail _ (.head _)))
        (Config.writtenBool_boolNode false)
    datePattern := .absent (by simp [paletteEntries])
    defaults := .absent (by simp [paletteEntries])
    forceColor := .absent (by simp [paletteEntries])
    palettes :=
      .present (.head _)
        (.intro (List.Perm.swap _ _ [])
          (.cons ⟨rfl, hNumbers⟩ (.cons ⟨rfl, hLevels⟩ .nil))) }

theorem decoding_undoes_encoding_of_palette :
    let node : Node :=
      .map (paletteEntries.map fun entry : Text × Node =>
        (Node.quoted entry.1, entry.2))
    paletteConfig.Written node ∧
      Config.ofNode? node = some paletteConfig := by
  intro node
  have hWritten : paletteConfig.Written node :=
    ⟨paletteEntries, rfl, writtenEntries_palette⟩
  exact
    ⟨hWritten,
      (decoding_undoes_encoding paletteConfig).1 node hWritten⟩

end

end LogLine
