import LogLine.Text.Dict
import Mathlib.Data.List.Nodup

/-
  Maps made of pairs that are stored one after the other: the
  last pair of a key is the one that is found.

  Key theorems include:
    * `LogLine.Dict.get?_ofList_append`
    * `LogLine.Dict.get?_ofList_eq_none_iff`
    * `LogLine.Dict.mem_of_get?_ofList`
    * `LogLine.Dict.get?_ofList_filterMap`
    * `LogLine.Dict.get?_eq_some_iff`
    * `LogLine.Dict.get?_ofList_entries`
    * `LogLine.Dict.ext_get?`
    * `LogLine.Dict.ofList_eq_of_perm`
-/

------------------------------------------------------------
-- Pairs on Top of a Map
------------------------------------------------------------

namespace LogLine

namespace Dict

variable {α : Type}

theorem insertAll_cons
    (dict : Dict α)
    (pair : Text × α)
    (pairs : List (Text × α)) :
    dict.insertAll (pair :: pairs) =
      (dict.insert pair.1 pair.2).insertAll pairs :=
  rfl

theorem insertAll_append
    (dict : Dict α)
    (first second : List (Text × α)) :
    dict.insertAll (first ++ second) =
      (dict.insertAll first).insertAll second :=
  List.foldl_append

/- What is found in the pairs hides what the map holds. -/
theorem get?_insertAll
    (dict : Dict α)
    (pairs : List (Text × α))
    (key : Text) :
    (dict.insertAll pairs).get? key =
      ((ofList pairs).get? key).or (dict.get? key) := by
  unfold ofList
  induction pairs generalizing dict with
  | nil =>
      show dict.get? key =
        ((empty : Dict α).get? key).or (dict.get? key)
      rw [get?_empty, Option.none_or]
  | cons pair pairs ih =>
      rw [insertAll_cons, insertAll_cons, ih, ih (empty.insert _ _),
        get?_insert, get?_insert, get?_empty]
      by_cases hKey : pair.1 = key
      · rw [if_pos hKey, if_pos hKey, Option.or_assoc,
          Option.some_or]
      · rw [if_neg hKey, if_neg hKey, Option.or_none]

/- Later pairs hide earlier ones. -/
theorem get?_ofList_append
    (first second : List (Text × α))
    (key : Text) :
    (ofList (first ++ second)).get? key =
      ((ofList second).get? key).or
        ((ofList first).get? key) := by
  have hSplit :
      ofList (first ++ second) =
        (ofList first).insertAll second :=
    insertAll_append empty first second
  rw [hSplit, get?_insertAll]

theorem get?_ofList_cons
    (pair : Text × α)
    (pairs : List (Text × α))
    (key : Text) :
    (ofList (pair :: pairs)).get? key =
      ((ofList pairs).get? key).or
        (if pair.1 = key then some pair.2 else none) := by
  have hSplit := get?_ofList_append [pair] pairs key
  have hFirst :
      (ofList [pair]).get? key =
        if pair.1 = key then some pair.2 else none :=
    get?_insert empty pair.1 key pair.2
  rw [hFirst] at hSplit
  exact hSplit

/- Only keys of the pairs are found. -/
theorem get?_ofList_eq_none_iff
    (pairs : List (Text × α))
    (key : Text) :
    (ofList pairs).get? key = none ↔
      ∀ pair ∈ pairs, pair.1 ≠ key := by
  induction pairs with
  | nil => simp [ofList, insertAll]
  | cons pair pairs ih =>
      rw [get?_ofList_cons, Option.or_eq_none_iff, ih,
        List.forall_mem_cons]
      by_cases hKey : pair.1 = key
      · simp [hKey]
      · simp [hKey]

/- Only values of the pairs are found. -/
theorem mem_of_get?_ofList
    {pairs : List (Text × α)}
    {key : Text}
    {value : α}
    (hFound : (ofList pairs).get? key = some value) :
    (key, value) ∈ pairs := by
  induction pairs with
  | nil => cases hFound
  | cons pair pairs ih =>
      rw [get?_ofList_cons, Option.or_eq_some_iff] at hFound
      rcases hFound with hRest | ⟨-, hFirst⟩
      · exact List.mem_cons_of_mem pair (ih hRest)
      · by_cases hKey : pair.1 = key
        · rw [if_pos hKey, Option.some.injEq] at hFirst
          rw [← hKey, ← hFirst]
          exact List.mem_cons_self
        · rw [if_neg hKey] at hFirst
          cases hFirst

/- A key of the pairs is found with a value of theirs. -/
theorem exists_get?_ofList
    {pairs : List (Text × α)}
    {key : Text}
    (hKey : ∃ pair ∈ pairs, pair.1 = key) :
    ∃ value,
      (ofList pairs).get? key = some value ∧
        (key, value) ∈ pairs := by
  cases hFound : (ofList pairs).get? key with
  | some value =>
      exact ⟨value, rfl, mem_of_get?_ofList hFound⟩
  | none =>
      rcases hKey with ⟨pair, hMem, hSame⟩
      rw [get?_ofList_eq_none_iff] at hFound
      exact absurd hSame (hFound pair hMem)

/- If the pairs of a key agree, their value is found. -/
theorem get?_ofList_of_unique
    {pairs : List (Text × α)}
    {key : Text}
    {value : α}
    (hMem : (key, value) ∈ pairs)
    (hUnique :
      ∀ other, (key, other) ∈ pairs → other = value) :
    (ofList pairs).get? key = some value := by
  rcases exists_get?_ofList ⟨(key, value), hMem, rfl⟩ with
    ⟨other, hFound, hOther⟩
  rw [hFound, hUnique other hOther]

/- Keys stored with the values that they have, if they have any. -/
theorem get?_ofList_filterMap
    (keys : List Text)
    (valueOf? : Text → Option α)
    (key : Text) :
    (ofList
        (keys.filterMap fun stored =>
          (valueOf? stored).map (fun value => (stored, value)))).get?
        key =
      if key ∈ keys then valueOf? key else none := by
  have hPair :
      ∀ value,
        (key, value) ∈
            keys.filterMap (fun stored =>
              (valueOf? stored).map
                (fun value => (stored, value))) ↔
          key ∈ keys ∧ valueOf? key = some value := by
    intro value
    simp only [List.mem_filterMap, Option.map_eq_some_iff,
      Prod.mk.injEq]
    constructor
    · rintro ⟨stored, hMem, found, hFound, rfl, rfl⟩
      exact ⟨hMem, hFound⟩
    · rintro ⟨hMem, hFound⟩
      exact ⟨key, hMem, value, hFound, rfl, rfl⟩
  cases hFound :
      if key ∈ keys then valueOf? key else none with
  | none =>
      rw [get?_ofList_eq_none_iff]
      rintro ⟨other, value⟩ hMem rfl
      rcases (hPair value).mp hMem with ⟨hKey, hValue⟩
      rw [if_pos hKey, hValue] at hFound
      cases hFound
  | some value =>
      rw [Option.ite_none_right_eq_some] at hFound
      refine get?_ofList_of_unique ((hPair value).mpr hFound) ?_
      intro other hOther
      have hSame := ((hPair other).mp hOther).2
      rw [hFound.2, Option.some.injEq] at hSame
      exact hSame.symm

end Dict

end LogLine

------------------------------------------------------------
-- Entries of a Map
------------------------------------------------------------

namespace LogLine

namespace Dict

variable {α : Type}

theorem mem_of_lookup
    {entries : List (Text × α)}
    {key : Text}
    {value : α}
    (hFound : lookup key entries = some value) :
    (key, value) ∈ entries := by
  induction entries with
  | nil => cases hFound
  | cons entry rest ih =>
      rw [lookup] at hFound
      by_cases hKey : entry.1 = key
      · rw [if_pos hKey, Option.some.injEq] at hFound
        rw [← hKey, ← hFound]
        exact List.mem_cons_self
      · rw [if_neg hKey] at hFound
        exact List.mem_cons_of_mem entry (ih hFound)

/- No key has two entries, so each entry is found. -/
theorem lookup_of_mem
    {entries : List (Text × α)}
    (hAscending : Ascending entries)
    {key : Text}
    {value : α}
    (hMem : (key, value) ∈ entries) :
    lookup key entries = some value := by
  induction entries with
  | nil => cases hMem
  | cons entry rest ih =>
      have hBelow := (List.pairwise_cons.mp hAscending).1
      have hRest := (List.pairwise_cons.mp hAscending).2
      rw [lookup]
      rcases List.mem_cons.mp hMem with rfl | hLater
      · exact if_pos rfl
      · have hOther : entry.1 ≠ key := by
          intro hSame
          have hLess : entry.1 < key := hBelow _ hLater
          rw [hSame] at hLess
          exact List.lt_irrefl key hLess
        rw [if_neg hOther]
        exact ih hRest hLater

theorem get?_eq_some_iff
    (dict : Dict α)
    (key : Text)
    (value : α) :
    dict.get? key = some value ↔
      (key, value) ∈ dict.entries :=
  ⟨mem_of_lookup, lookup_of_mem dict.ascending⟩

theorem contains_iff_mem_keys
    (dict : Dict α)
    (key : Text) :
    dict.contains key = true ↔ key ∈ dict.keys := by
  unfold contains keys
  rw [Option.isSome_iff_exists, List.mem_map]
  constructor
  · rintro ⟨value, hFound⟩
    exact ⟨(key, value), (get?_eq_some_iff _ _ _).mp hFound, rfl⟩
  · rintro ⟨⟨stored, value⟩, hMem, rfl⟩
    exact ⟨value, (get?_eq_some_iff _ _ _).mpr hMem⟩

/- A map made of pairs has no entry but these. -/
theorem mem_of_mem_entries_ofList
    {pairs : List (Text × α)}
    {key : Text}
    {value : α}
    (hMem : (key, value) ∈ (ofList pairs).entries) :
    (key, value) ∈ pairs := by
  apply mem_of_get?_ofList
  exact (get?_eq_some_iff _ key value).mpr hMem

theorem nodup_entries
    (dict : Dict α) :
    dict.entries.Nodup := by
  refine List.Pairwise.imp ?_ dict.ascending
  rintro earlier later hLess rfl
  exact List.lt_irrefl _ hLess

/- Maps in which the same is found are the same. -/
theorem ext_get?
    {first second : Dict α}
    (hSame : ∀ key, first.get? key = second.get? key) :
    first = second := by
  have hMem :
      ∀ entry, entry ∈ first.entries ↔ entry ∈ second.entries := by
    rintro ⟨key, value⟩
    rw [← get?_eq_some_iff, ← get?_eq_some_iff, hSame]
  have hPerm : first.entries.Perm second.entries :=
    (List.perm_ext_iff_of_nodup first.nodup_entries
      second.nodup_entries).mpr hMem
  have hEntries : first.entries = second.entries := by
    refine
      hPerm.eq_of_pairwise ?_ first.ascending second.ascending
    intro entry other _ _ hBelow hAbove
    exact absurd hAbove (List.lt_asymm hBelow)
  cases first
  cases second
  cases hEntries
  rfl

/- The order in which entries are stored does not matter. -/
theorem ofList_eq_of_perm
    {pairs : List (Text × α)}
    {dict : Dict α}
    (hPerm : pairs.Perm dict.entries) :
    ofList pairs = dict := by
  apply ext_get?
  intro key
  cases hFound : dict.get? key with
  | none =>
      rw [get?_ofList_eq_none_iff]
      rintro ⟨other, value⟩ hMem rfl
      rw [hPerm.mem_iff, ← get?_eq_some_iff, hFound] at hMem
      cases hMem
  | some value =>
      have hMem := (get?_eq_some_iff dict key value).mp hFound
      refine get?_ofList_of_unique (hPerm.mem_iff.mpr hMem) ?_
      intro other hOther
      rw [hPerm.mem_iff, ← get?_eq_some_iff, hFound,
        Option.some.injEq] at hOther
      exact hOther.symm

/- Storing the entries of a map gives the values of the map. -/
theorem get?_ofList_entries
    (dict : Dict α)
    (key : Text) :
    (ofList dict.entries).get? key = dict.get? key := by
  rw [ofList_eq_of_perm (List.Perm.refl dict.entries)]

end Dict

end LogLine
