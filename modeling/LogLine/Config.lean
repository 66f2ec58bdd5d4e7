import LogLine.Settings
import LogLine.Yaml.Document

/-
  Settings that are written down as a YAML document.

  Key definitions include:
    * `LogLine.Config`
    * `LogLine.Config.ofNode?`
    * `LogLine.Config.toNode`
    * `LogLine.Config.ofYaml`
    * `LogLine.Config.settings`

  A value for all levels can be written alone, and a colour
  can be a number, a text, or a list of both.
-/

------------------------------------------------------------
-- Configurations
------------------------------------------------------------

namespace LogLine

/- Settings as far as a document can give them. -/
structure Config where
  templates : LevelMap Text
  backups : Option (LevelMap Text)
  deriveBackup : Bool
  datePattern : Option Text
  defaults : Dict Value
  forceColor : Bool
  palettes : Dict (LevelMap Color)
deriving DecidableEq

/- Why no configuration is read. -/
inductive ConfigError where
  /- The text is no document of the right shape. -/
  | invalidDocument
  /- The file with the text cannot be read. -/
  | unreadableFile
deriving DecidableEq, Repr

namespace Config

/- The settings of a configuration. -/
def settings
    (config : Config) :
    Settings :=
  { Settings.blank with
    templates := config.templates
    backups := config.backups
    deriveBackup := config.deriveBackup
    datePattern := config.datePattern
    defaults := config.defaults
    forceColor := config.forceColor
    palettes := config.palettes }

end Config

end LogLine

------------------------------------------------------------
-- Decoding Values
------------------------------------------------------------

namespace LogLine

namespace Config

open Yaml

/- A node as the text it is; other scalars are refused. -/
def text? : Node → Option Text
  | .scalar _ (.text t) => some t
  | _ => none

/- A scalar as the text that it was written by. -/
def source? : Node → Option Text
  | .scalar source _ => some source
  | _ => none

def bool? : Node → Option Bool
  | .scalar _ (.bool value) => some value
  | _ => none

/- An absent value for a null, and else a value. -/
def optional?
    {α : Type}
    (decode : Node → Option α) :
    Node → Option (Option α)
  | .scalar _ .null => some none
  | node => (decode node).map some

/- A default value; truth values and collections are refused. -/
def value? : Node → Option Value
  | .scalar _ (.int n) =>
      if Value.fitsInt n then
        some (.int (Int64.ofInt n))
      else if 0 ≤ n ∧ n < Int.pow 2 64 then
        some (.float (Binary64.ofInt n))
      else
        none
  | .scalar _ (.float x) => some (.float x)
  | .scalar _ (.text t) => some (.str t)
  | .scalar _ .null => some .none
  | _ => none

/- A colour code; a number has 32 bits and no sign. -/
def code? : Node → Option Text
  | .scalar _ (.int n) =>
      if 0 ≤ n ∧ n < Int.pow 2 32 then
        some (Text.ofInt n)
      else
        none
  | node => text? node

/- A colour by one code or by a list of codes. -/
def color? : Node → Option Color
  | .list items => (items.mapM code?).map Color.codes
  | node => (code? node).map Color.code

end Config

end LogLine

------------------------------------------------------------
-- Decoding Level Maps
------------------------------------------------------------

namespace LogLine

namespace Config

open Yaml

variable {α : Type}

/-
  The slot that a key names by its word or by its number.  A
  number behind a minus sign names none, not even as zero.
-/
def slot? : Node → Option Slot
  | .scalar _ (.text word) =>
      Slot.all.find? (fun slot => slot.key.toList == word)
  | .scalar source (.int n) =>
      if n < 0 ∨ source.head? = some '-' then
        none
      else
        Slot.all[n.toNat]?
  | _ => none

/- The slots of a mapping, each of them at most once. -/
def slotEntries?
    (decode : Node → Option α) :
    List (Node × Node) → Option (List (Slot × Option α))
  | [] => some []
  | (key, node) :: rest => do
      let slot ← slot? key
      let value ← optional? decode node
      let entries ← slotEntries? decode rest
      if (entries.lookup slot).isSome then
        none
      else
        return (slot, value) :: entries

/- A level map with the values of some slots. -/
def ofSlots
    (entries : List (Slot × Option α)) :
    LevelMap α :=
  entries.foldl
    (fun map (slot, value) =>
      match value with
      | some value => map.setSlot slot value
      | none => map)
    LevelMap.empty

/- A level map by its slots, in a mapping or in a list of all. -/
def slots?
    (decode : Node → Option α) :
    Node → Option (LevelMap α)
  | .map entries => (slotEntries? decode entries).map ofSlots
  | .list items =>
      if items.length = Slot.all.length then
        (items.mapM (optional? decode)).map
          (fun values => ofSlots (Slot.all.zip values))
      else
        none
  | .scalar _ _ => none

/- A level map by one value for all levels, or by its slots. -/
def levelMap?
    (decode : Node → Option α)
    (node : Node) :
    Option (LevelMap α) :=
  match decode node with
  | some value => some (LevelMap.uniform value)
  | none => slots? decode node

end Config

end LogLine

------------------------------------------------------------
-- Decoding Configurations
------------------------------------------------------------

namespace LogLine

namespace Config

open Yaml

/-
  The entries of a mapping whose keys are texts.  A value that
  is left out has none.
-/
def textEntries? : Node → Option (List (Text × Node))
  | .map entries =>
      entries.mapM fun (key, node) =>
        (source? key).map (·, node)
  | .scalar [] .null => some []
  | _ => none

/- A map from texts; of equal keys the last one counts. -/
def dict?
    {α : Type}
    (decode : Node → Option α)
    (node : Node) :
    Option (Dict α) := do
  let entries ← textEntries? node
  let values ← entries.mapM fun (key, node) =>
    (decode node).map (fun value => (key, value))
  return Dict.ofList values

/- The keys of a configuration. -/
def keys : List String :=
  ["templates", "backup_templates", "derive_backup", "datefmt",
   "defaults", "force_color", "palettes"]

/- Whether all keys are known and none stands twice. -/
def hasValidKeys
    (entries : List (Text × Node)) :
    Bool :=
  let words := entries.map Prod.fst
  words.all (fun word => keys.any (fun key => key.toList == word))
    && decide words.Nodup

/- The value of a key, or what holds where the key is left out. -/
def entryD
    {α : Type}
    (entries : List (Text × Node))
    (key : String)
    (decode : Node → Option α)
    (fallback : α) :
    Option α :=
  match entries.lookup key.toList with
  | some node => decode node
  | none => some fallback

/- The configuration that a tree gives, if it has the shape. -/
def ofNode?
    (node : Node) :
    Option Config := do
  let entries ← textEntries? node
  if hasValidKeys entries then
    let templates ← entries.lookup "templates".toList
    return {
      templates := ← levelMap? text? templates
      backups := ← entryD entries "backup_templates"
        (optional? (levelMap? text?)) none
      deriveBackup := ← entryD entries "derive_backup" bool? true
      datePattern := ← entryD entries "datefmt"
        (optional? source?) none
      defaults := ← entryD entries "defaults"
        (dict? value?) Dict.empty
      forceColor := ← entryD entries "force_color" bool? false
      palettes := ← entryD entries "palettes"
        (dict? (levelMap? color?)) Dict.empty }
  else
    none

/- The configuration in a document. -/
def ofYaml
    (document : Text) :
    Except ConfigError Config :=
  match (Node.parse? document).bind ofNode? with
  | some config => .ok config
  | none => .error .invalidDocument

end Config

end LogLine

------------------------------------------------------------
-- Encoding
------------------------------------------------------------

namespace LogLine

namespace Config

open Yaml

variable {α : Type}

/- A word as a key. -/
def keyNode
    (key : String) :
    Node :=
  Node.quoted key.toList

def boolNode
    (value : Bool) :
    Node :=
  .scalar (toString value).toList (.bool value)

/- A value as a scalar of its kind. -/
def valueNode : Value → Node
  | .str text => Node.quoted text
  | .int n => .scalar (Text.ofInt n.toInt) (.int n.toInt)
  | .float x => .scalar (valueLayout.write x) (.float x)
  | .none => .scalar "null".toList .null

/- A colour as a text or a list of texts. -/
def colorNode : Color → Node
  | .code code => Node.quoted code
  | .codes codes => .list (codes.map Node.quoted)

/- A level map as a mapping of the slots that are stored. -/
def levelMapNode
    (encode : α → Node)
    (map : LevelMap α) :
    Node :=
  .map (map.slots.map fun (slot, value) =>
    (keyNode slot.key, encode value))

/- A map from texts as a mapping. -/
def dictNode
    (encode : α → Node)
    (dict : Dict α) :
    Node :=
  .map (dict.entries.map fun (key, value) =>
    (Node.quoted key, encode value))

/- A value, or a null for an absent one. -/
def optionNode
    (encode : α → Node) :
    Option α → Node
  | some value => encode value
  | none => .scalar "null".toList .null

/- A configuration as a tree. -/
def toNode
    (config : Config) :
    Node :=
  .map
    [(keyNode "templates",
       levelMapNode Node.quoted config.templates),
     (keyNode "backup_templates",
       optionNode (levelMapNode Node.quoted) config.backups),
     (keyNode "derive_backup", boolNode config.deriveBackup),
     (keyNode "datefmt",
       optionNode Node.quoted config.datePattern),
     (keyNode "defaults", dictNode valueNode config.defaults),
     (keyNode "force_color", boolNode config.forceColor),
     (keyNode "palettes",
       dictNode (levelMapNode colorNode) config.palettes)]

end Config

end LogLine
