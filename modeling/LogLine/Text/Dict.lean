import LogLine.Text

/-
  Finite maps from texts to values, kept in the order of
  their keys by code point.

  Key definitions include:
    * `LogLine.Dict`
    * `LogLine.Dict.get?`
    * `LogLine.Dict.insert`
    * `LogLine.Dict.insertAll`

  Key theorems include:
    * `LogLine.Dict.get?_empty`
    * `LogLine.Dict.get?_insert`
-/

------------------------------------------------------------
-- Ordered Entries
------------------------------------------------------------

namespace LogLine

namespace Dict

variable {α : Type}

/- Whether every key is below all keys after it. -/
def Ascending
    (entries : List (Text × α)) :
    Prop :=
  entries.Pairwise (fun earlier later => earlier.1 < later.1)

/- The value stored under a key. -/
def lookup
    (key : Text) :
    List (Text × α) → Option α
  | [] => none
  | (k, v) :: rest =>
      if k = key then some v else lookup key rest

/- Store a value under a key, in its place in the order. -/
def store
    (key : Text)
    (value : α) :
    List (Text × α) → List (Text × α)
  | [] => [(key, value)]
  | (k, v) :: rest =>
      if key < k then
        (key, value) :: (k, v) :: rest
      else if k = key then
        (key, value) :: rest
      else
        (k, v) :: store key value rest

/- Storing adds no key but the one stored. -/
theorem mem_store
    {key : Text}
    {value : α}
    {entries : List (Text × α)}
    {entry : Text × α}
    (hMem : entry ∈ store key value entries) :
    entry.1 = key ∨ entry ∈ entries := by
  induction entries with
  | nil =>
      simp only [store, List.mem_singleton] at hMem
      exact Or.inl (by rw [hMem])
  | cons head rest ih =>
      obtain ⟨k, v⟩ := head
      rw [store] at hMem
      split at hMem
      · rcases List.mem_cons.mp hMem with rfl | hRest
        · exact Or.inl rfl
        · exact Or.inr hRest
      · split at hMem
        · rcases List.mem_cons.mp hMem with rfl | hRest
          · exact Or.inl rfl
          · exact Or.inr (List.mem_cons_of_mem _ hRest)
        · rcases List.mem_cons.mp hMem with rfl | hRest
          · exact Or.inr List.mem_cons_self
          · rcases ih hRest with hKey | hOld
            · exact Or.inl hKey
            · exact Or.inr (List.mem_cons_of_mem _ hOld)

/- Storing keeps the order. -/
theorem Ascending.store
    {entries : List (Text × α)}
    (hAscending : Ascending entries)
    (key : Text)
    (value : α) :
    Ascending (Dict.store key value entries) := by
  induction entries with
  | nil => exact List.pairwise_singleton _ _
  | cons head rest ih =>
      obtain ⟨k, v⟩ := head
      have hRest : Ascending rest :=
        (List.pairwise_cons.mp hAscending).2
      have hHead : ∀ entry ∈ rest, k < entry.1 :=
        (List.pairwise_cons.mp hAscending).1
      rw [Dict.store]
      split
      case isTrue hBelow =>
        refine List.pairwise_cons.mpr ⟨?_, hAscending⟩
        intro entry hMem
        rcases List.mem_cons.mp hMem with rfl | hLater
        · exact hBelow
        · exact List.lt_trans hBelow (hHead entry hLater)
      case isFalse hNotBelow =>
        split
        case isTrue hSame =>
          subst hSame
          exact List.pairwise_cons.mpr ⟨hHead, hRest⟩
        case isFalse hOther =>
          refine List.pairwise_cons.mpr ⟨?_, ih hRest⟩
          intro entry hMem
          rcases mem_store hMem with hKey | hOld
          · show k < entry.1
            rw [hKey]
            rcases Std.lt_trichotomy k key with h | h | h
            · exact h
            · exact absurd h hOther
            · exact absurd h hNotBelow
          · exact hHead entry hOld

end Dict

end LogLine

------------------------------------------------------------
-- Dictionaries
------------------------------------------------------------

namespace LogLine

/-
  A finite map from texts.  Each key occurs once, and the
  entries stand in the order of their keys.
-/
structure Dict (α : Type) where
  entries : List (Text × α)
  ascending : Dict.Ascending entries
deriving DecidableEq

namespace Dict

variable {α β : Type}

/- The map without entries. -/
def empty : Dict α :=
  ⟨[], List.Pairwise.nil⟩

instance : Inhabited (Dict α) :=
  ⟨empty⟩

/- The value stored under a key, if there is one. -/
def get?
    (dict : Dict α)
    (key : Text) :
    Option α :=
  lookup key dict.entries

/- Store a value under a key in place of an earlier one. -/
def insert
    (dict : Dict α)
    (key : Text)
    (value : α) :
    Dict α :=
  ⟨store key value dict.entries,
    dict.ascending.store key value⟩

/- Store pairs one after the other; the last one of a key stays. -/
def insertAll
    (dict : Dict α)
    (pairs : List (Text × α)) :
    Dict α :=
  pairs.foldl (fun acc pair => acc.insert pair.1 pair.2) dict

/- The map that holds the pairs, the last one of each key. -/
def ofList
    (pairs : List (Text × α)) :
    Dict α :=
  empty.insertAll pairs

/- The keys in order. -/
def keys
    (dict : Dict α) :
    List Text :=
  dict.entries.map Prod.fst

/- Whether a key has a value. -/
def contains
    (dict : Dict α)
    (key : Text) :
    Bool :=
  (dict.get? key).isSome

/- The number of entries. -/
def size
    (dict : Dict α) :
    Nat :=
  dict.entries.length

@[simp]
theorem get?_empty
    (key : Text) :
    (empty : Dict α).get? key = none :=
  rfl

/- What is found after storing. -/
theorem get?_insert
    (dict : Dict α)
    (stored key : Text)
    (value : α) :
    (dict.insert stored value).get? key =
      if stored = key then some value else dict.get? key := by
  show lookup key (store stored value dict.entries) =
    if stored = key then some value
    else lookup key dict.entries
  induction dict.entries with
  | nil => simp [store, lookup]
  | cons head rest ih =>
      obtain ⟨k, v⟩ := head
      rw [store]
      split
      · simp [lookup]
      · split
        case isTrue hSame =>
          subst hSame
          simp only [lookup]
          split <;> rfl
        case isFalse hOther =>
          simp only [lookup, ih]
          split
          case isTrue hKey =>
            subst hKey
            simp [Ne.symm hOther]
          case isFalse => rfl

end Dict

end LogLine
