import LogLine.Level

/-
  Values for each level with a default that they share.

  Key definitions include:
    * `LogLine.LevelMap`
    * `LogLine.LevelMap.get?`
    * `LogLine.LevelMap.slots`
    * `LogLine.LevelMap.firstMissing?`
    * `LogLine.LevelMap.resolved`
    * `LogLine.LevelMap.tryMap`

  Key theorems include:
    * `LogLine.LevelMap.explicit?_set`
    * `LogLine.LevelMap.explicit?_setDefault`
-/

------------------------------------------------------------
-- Slots
------------------------------------------------------------

namespace LogLine

/- Where a value of a level map is stored. -/
inductive Slot where
  | level (level : Level)
  | default
deriving DecidableEq, Repr

namespace Slot

/- The name of a slot in a configuration. -/
def key : Slot → String
  | level l => l.key
  | default => "default"

/- All slots: the levels by rank, then the default. -/
def all : List Slot :=
  Level.all.map level ++ [default]

end Slot

end LogLine

------------------------------------------------------------
-- Level Maps
------------------------------------------------------------

namespace LogLine

/- A value of its own for some levels, and one for all others. -/
structure LevelMap (α : Type) where
  debug : Option α
  info : Option α
  warning : Option α
  error : Option α
  critical : Option α
  default : Option α
deriving DecidableEq, Repr

namespace LevelMap

variable {α β : Type}

/- The map in which no level has a value. -/
def empty : LevelMap α :=
  ⟨none, none, none, none, none, none⟩

instance : Inhabited (LevelMap α) :=
  ⟨empty⟩

/- The level's own value. -/
def explicit?
    (map : LevelMap α) :
    Level → Option α
  | .debug => map.debug
  | .info => map.info
  | .warning => map.warning
  | .error => map.error
  | .critical => map.critical

/- What is stored in a slot. -/
def stored?
    (map : LevelMap α) :
    Slot → Option α
  | .level level => map.explicit? level
  | .default => map.default

/- Store a value for one level. -/
def set
    (map : LevelMap α)
    (level : Level)
    (value : α) :
    LevelMap α :=
  match level with
  | .debug => { map with debug := some value }
  | .info => { map with info := some value }
  | .warning => { map with warning := some value }
  | .error => { map with error := some value }
  | .critical => { map with critical := some value }

/- Store the value for all levels without their own. -/
def setDefault
    (map : LevelMap α)
    (value : α) :
    LevelMap α :=
  { map with default := some value }

/- Store a value in a slot. -/
def setSlot
    (map : LevelMap α)
    (slot : Slot)
    (value : α) :
    LevelMap α :=
  match slot with
  | .level level => map.set level value
  | .default => map.setDefault value

/- One value for all levels. -/
def uniform
    (value : α) :
    LevelMap α :=
  empty.setDefault value

/- One value for each level, by rank. -/
def ofLevels
    (debug info warning error critical : α) :
    LevelMap α :=
  ⟨debug, info, warning, error, critical, none⟩

/- The level's value, or else the default. -/
def get?
    (map : LevelMap α)
    (level : Level) :
    Option α :=
  (map.explicit? level).or map.default

/- The level's value, or else a last resort. -/
def getD
    (map : LevelMap α)
    (level : Level)
    (fallback : α) :
    α :=
  (map.get? level).getD fallback

theorem explicit?_set
    (map : LevelMap α)
    (level other : Level)
    (value : α) :
    (map.set level value).explicit? other =
      if level = other then some value
      else map.explicit? other := by
  cases level <;> cases other <;> rfl

@[simp]
theorem default_set
    (map : LevelMap α)
    (level : Level)
    (value : α) :
    (map.set level value).default = map.default := by
  cases level <;> rfl

@[simp]
theorem explicit?_setDefault
    (map : LevelMap α)
    (level : Level)
    (value : α) :
    (map.setDefault value).explicit? level =
      map.explicit? level := by
  cases level <;> rfl

end LevelMap

end LogLine

------------------------------------------------------------
-- Views
------------------------------------------------------------

namespace LogLine

namespace LevelMap

variable {α β : Type}

/- The stored values: levels by rank, then the default. -/
def slots
    (map : LevelMap α) :
    List (Slot × α) :=
  Slot.all.filterMap fun slot =>
    (map.stored? slot).map (fun value => (slot, value))

/- The value of every level by rank. -/
def effective
    (map : LevelMap α) :
    List (Level × Option α) :=
  Level.all.map (fun level => (level, map.get? level))

/- Whether nothing is stored. -/
def isEmpty
    (map : LevelMap α) :
    Bool :=
  map.slots.isEmpty

/- The lowest level without a value. -/
def firstMissing?
    (map : LevelMap α) :
    Option Level :=
  Level.all.find? (fun level => (map.get? level).isNone)

/- Whether every level has a value. -/
def isComplete
    (map : LevelMap α) :
    Bool :=
  map.firstMissing?.isNone

/- A level's value, or the level itself if it has none. -/
def require
    (map : LevelMap α)
    (level : Level) :
    Except Level α :=
  match map.get? level with
  | some value => .ok value
  | none => .error level

/- The values of all levels, or the lowest level without one. -/
def resolved
    (map : LevelMap α) :
    Except Level (Level → α) := do
  let debug ← map.require .debug
  let info ← map.require .info
  let warning ← map.require .warning
  let error ← map.require .error
  let critical ← map.require .critical
  return fun
    | .debug => debug
    | .info => info
    | .warning => warning
    | .error => error
    | .critical => critical

/-
  Change every stored value, slot by slot; the action may stop
  and may keep a state.
-/
def tryMap
    {m : Type → Type}
    [Monad m]
    (map : LevelMap α)
    (change : Slot → α → m β) :
    m (LevelMap β) :=
  map.slots.foldlM
    (fun out (slot, value) => do
      let changed ← change slot value
      return out.setSlot slot changed)
    empty

end LevelMap

end LogLine
