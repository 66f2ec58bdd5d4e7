import LogLine.LevelMap
import LogLine.Proofs.Outcome
import Mathlib.Data.List.Nodup

/-
  Level maps slot by slot: what is stored, and what a change
  that can fail leaves behind in every slot.

  Key definitions include:
    * `LogLine.LevelMap.Effective`
    * `LogLine.LevelMap.lastStored?`
    * `LogLine.LevelMap.storeAll`
    * `LogLine.LevelMap.Changed`

  Key theorems include:
    * `LogLine.Level.failsFirst_all_iff`
    * `LogLine.LevelMap.mem_slots_iff`
    * `LogLine.LevelMap.nodup_slots`
    * `LogLine.LevelMap.stored?_setSlot`
    * `LogLine.LevelMap.ext_stored?`
    * `LogLine.LevelMap.stored?_storeAll`
    * `LogLine.LevelMap.lastStored?_eq_some_iff`
    * `LogLine.LevelMap.changed_of_tryMap`
    * `LogLine.LevelMap.exists_tryMap_iff`
    * `LogLine.LevelMap.exists_of_tryMap_eq_error`
    * `LogLine.LevelMap.firstMissing?_eq_none_iff`
    * `LogLine.LevelMap.get?_of_resolved`
    * `LogLine.LevelMap.exists_resolved`
-/

------------------------------------------------------------
-- Levels
------------------------------------------------------------

namespace LogLine

theorem Level.pairwise_all :
    all.Pairwise (fun lower upper => lower.rank < upper.rank) := by
  decide

/- The first level that fails is the lowest one that does. -/
theorem Level.failsFirst_all_iff
    {ε β : Type}
    (change : Level → Except ε β)
    (fault : ε) :
    FailsFirst change all fault ↔
      ∃ level,
        change level = .error fault ∧
          ∀ lower : Level, lower.rank < level.rank →
            ∃ changed, change lower = .ok changed := by
  constructor
  · rintro ⟨before, level, after, hAll, hBefore, hFault⟩
    refine ⟨level, hFault, ?_⟩
    intro lower hLess
    have hOrder := pairwise_all
    rw [hAll, List.pairwise_append, List.pairwise_cons] at hOrder
    rcases hOrder with ⟨-, ⟨hAfter, -⟩, -⟩
    have hMem := lower.mem_all
    rw [hAll, List.mem_append, List.mem_cons] at hMem
    rcases hMem with hLower | rfl | hUpper
    · exact hBefore lower hLower
    · exact absurd hLess (Nat.lt_irrefl _)
    · exact absurd hLess (Nat.lt_asymm (hAfter lower hUpper))
  · rintro ⟨level, hFault, hLower⟩
    rcases List.append_of_mem level.mem_all with
      ⟨before, after, hAll⟩
    refine ⟨before, level, after, hAll, ?_, hFault⟩
    intro lower hMem
    have hOrder := pairwise_all
    rw [hAll, List.pairwise_append] at hOrder
    exact
      hLower lower (hOrder.2.2 lower hMem level List.mem_cons_self)

end LogLine

------------------------------------------------------------
-- Slots
------------------------------------------------------------

namespace LogLine

namespace Slot

theorem mem_all
    (slot : Slot) :
    slot ∈ all := by
  cases slot with
  | level level =>
      refine List.mem_append_left _ ?_
      exact List.mem_map_of_mem (Level.mem_all level)
  | default => exact List.mem_append_right _ List.mem_cons_self

end Slot

namespace LevelMap

variable {α β : Type}

theorem mem_slots_iff
    (map : LevelMap α)
    (slot : Slot)
    (value : α) :
    (slot, value) ∈ map.slots ↔
      map.stored? slot = some value := by
  unfold slots
  rw [List.mem_filterMap]
  constructor
  · rintro ⟨other, -, hValue⟩
    rw [Option.map_eq_some_iff] at hValue
    rcases hValue with ⟨stored, hStored, hPair⟩
    cases hPair
    exact hStored
  · intro hStored
    exact ⟨slot, slot.mem_all, by rw [hStored]; rfl⟩

/- No slot is listed twice. -/
theorem nodup_slots
    (map : LevelMap α) :
    (map.slots.map Prod.fst).Nodup := by
  unfold slots
  rw [List.map_filterMap]
  refine List.Nodup.filterMap ?_ (by decide)
  intro slot other found hSlot hOther
  simp only [Option.map_map, Option.mem_def,
    Option.map_eq_some_iff, Function.comp_apply] at hSlot hOther
  rcases hSlot with ⟨_, -, rfl⟩
  rcases hOther with ⟨_, -, rfl⟩
  rfl

/- A level's value is its own one, or else the default. -/
def Effective
    (map : LevelMap α)
    (level : Level)
    (value : α) : Prop :=
  map.explicit? level = some value ∨
    map.explicit? level = none ∧ map.default = some value

theorem get?_eq_some_iff
    (map : LevelMap α)
    (level : Level)
    (value : α) :
    map.get? level = some value ↔ map.Effective level value :=
  Option.or_eq_some_iff

/- Maps that hold the same in every slot are the same. -/
theorem ext_stored?
    {first second : LevelMap α}
    (hSame : ∀ slot, first.stored? slot = second.stored? slot) :
    first = second := by
  have hDebug := hSame (.level .debug)
  have hInfo := hSame (.level .info)
  have hWarning := hSame (.level .warning)
  have hError := hSame (.level .error)
  have hCritical := hSame (.level .critical)
  have hDefault := hSame .default
  cases first
  cases second
  cases hDebug
  cases hInfo
  cases hWarning
  cases hError
  cases hCritical
  cases hDefault
  rfl

theorem stored?_empty
    (slot : Slot) :
    (empty : LevelMap α).stored? slot = none := by
  cases slot with
  | level level => cases level <;> rfl
  | default => rfl

theorem stored?_setSlot
    (map : LevelMap α)
    (slot other : Slot)
    (value : α) :
    (map.setSlot slot value).stored? other =
      if slot = other then some value
      else map.stored? other := by
  cases slot with
  | level level =>
      cases other with
      | level second =>
          show (map.set level value).explicit? second = _
          rw [explicit?_set]
          simp [stored?]
      | default =>
          show (map.set level value).default = _
          rw [default_set]
          rfl
  | default =>
      cases other with
      | level second =>
          show (map.setDefault value).explicit? second = _
          rw [explicit?_setDefault]
          rfl
      | default => rfl

end LevelMap

end LogLine

------------------------------------------------------------
-- Values Stored Last
------------------------------------------------------------

namespace LogLine

namespace LevelMap

variable {α : Type}

/- The value that was stored last in a slot, if any was. -/
def lastStored?
    (stores : List (Slot × α))
    (slot : Slot) :
    Option α :=
  ((stores.filter (·.1 = slot)).getLast?).map Prod.snd

theorem lastStored?_cons
    (entry : Slot × α)
    (stores : List (Slot × α))
    (slot : Slot) :
    lastStored? (entry :: stores) slot =
      (lastStored? stores slot).or
        (if entry.1 = slot then some entry.2 else none) := by
  unfold lastStored?
  by_cases hSlot : entry.1 = slot
  · rw [List.filter_cons_of_pos (by simpa using hSlot),
      if_pos hSlot, List.getLast?_cons]
    cases (stores.filter (·.1 = slot)).getLast? with
    | none => rfl
    | some last => rfl
  · rw [List.filter_cons_of_neg (by simpa using hSlot),
      if_neg hSlot, Option.or_none]

theorem lastStored?_eq_none
    {stores : List (Slot × α)}
    {slot : Slot}
    (hNone : slot ∉ stores.map Prod.fst) :
    lastStored? stores slot = none := by
  have hFilter : stores.filter (·.1 = slot) = [] := by
    rw [List.filter_eq_nil_iff]
    intro entry hMem hSlot
    rw [← of_decide_eq_true hSlot] at hNone
    exact hNone (List.mem_map_of_mem hMem)
  rw [lastStored?, hFilter]
  rfl

/- All the values stored into a map, one after the other. -/
def storeAll
    (map : LevelMap α)
    (stores : List (Slot × α)) :
    LevelMap α :=
  stores.foldl (fun map entry => map.setSlot entry.1 entry.2) map

theorem storeAll_append
    (map : LevelMap α)
    (earlier later : List (Slot × α)) :
    map.storeAll (earlier ++ later) =
      (map.storeAll earlier).storeAll later :=
  List.foldl_append

theorem stored?_storeAll
    (map : LevelMap α)
    (stores : List (Slot × α))
    (slot : Slot) :
    (map.storeAll stores).stored? slot =
      (lastStored? stores slot).or (map.stored? slot) := by
  induction stores generalizing map with
  | nil => exact (Option.none_or).symm
  | cons entry stores ih =>
      rw [storeAll, List.foldl_cons, ← storeAll, ih,
        stored?_setSlot, lastStored?_cons, Option.or_assoc]
      by_cases hSlot : entry.1 = slot
      · rw [if_pos hSlot, if_pos hSlot, Option.some_or]
      · rw [if_neg hSlot, if_neg hSlot, Option.none_or]

theorem stored?_storeAll_empty
    (stores : List (Slot × α))
    (slot : Slot) :
    (empty.storeAll stores).stored? slot =
      lastStored? stores slot := by
  rw [stored?_storeAll, stored?_empty, Option.or_none]

/- What is stored once in a slot is what was stored last. -/
theorem lastStored?_eq_some_iff
    {stores : List (Slot × α)}
    (hNodup : (stores.map Prod.fst).Nodup)
    (slot : Slot)
    (value : α) :
    lastStored? stores slot = some value ↔
      (slot, value) ∈ stores := by
  induction stores with
  | nil => exact ⟨nofun, nofun⟩
  | cons entry stores ih =>
      rw [List.map_cons, List.nodup_cons] at hNodup
      rcases hNodup with ⟨hNew, hRest⟩
      rw [lastStored?_cons, List.mem_cons]
      by_cases hSlot : entry.1 = slot
      · subst hSlot
        have hLater : (entry.1, value) ∉ stores := fun hMem =>
          hNew (List.mem_map.mpr ⟨_, hMem, rfl⟩)
        rw [lastStored?_eq_none hNew, Option.none_or, if_pos rfl,
          or_iff_left hLater, Option.some.injEq]
        constructor
        · rintro rfl
          rfl
        · intro hSame
          rw [← hSame]
      · have hOther : (slot, value) ≠ entry := by
          rintro rfl
          exact hSlot rfl
        rw [if_neg hSlot, Option.or_none, ih hRest]
        exact (or_iff_right hOther).symm

end LevelMap

end LogLine

------------------------------------------------------------
-- Changes That Can Fail
------------------------------------------------------------

namespace LogLine

namespace LevelMap

variable {ε α β : Type}

/- Every slot of a map holds the changed value of another's. -/
def Changed
    (change : Slot → α → Except ε β)
    (map : LevelMap α)
    (out : LevelMap β) : Prop :=
  ∀ slot,
    match map.stored? slot with
    | none => out.stored? slot = none
    | some value =>
        ∃ changed,
          change slot value = .ok changed ∧
            out.stored? slot = some changed

/- One step of changing a map. -/
def changeSlot
    (change : Slot → α → Except ε β)
    (out : LevelMap β)
    (entry : Slot × α) :
    Except ε (LevelMap β) := do
  let changed ← change entry.1 entry.2
  return out.setSlot entry.1 changed

theorem tryMap_eq_foldlM
    (change : Slot → α → Except ε β)
    (map : LevelMap α) :
    map.tryMap change =
      map.slots.foldlM (changeSlot change) empty :=
  rfl

theorem foldlM_changeSlot
    {change : Slot → α → Except ε β}
    {entries : List (Slot × α)}
    {before after : LevelMap β}
    (hFold :
      entries.foldlM (changeSlot change) before = .ok after)
    (slot : Slot) :
    (∃ value changed,
      (slot, value) ∈ entries ∧
        change slot value = .ok changed ∧
        after.stored? slot = some changed) ∨
    ((∀ value, (slot, value) ∉ entries) ∧
      after.stored? slot = before.stored? slot) := by
  induction entries generalizing before with
  | nil =>
      cases hFold
      exact Or.inr ⟨by simp, rfl⟩
  | cons entry entries ih =>
      rw [List.foldlM_cons, bind_eq_ok_iff] at hFold
      rcases hFold with ⟨following, hStep, hRest⟩
      rcases ih hRest with
        ⟨value, changed, hMem, hChange, hStored⟩ |
          ⟨hNone, hStored⟩
      · left
        exact
          ⟨value, changed, List.mem_cons_of_mem entry hMem,
            hChange, hStored⟩
      · unfold changeSlot at hStep
        rw [bind_eq_ok_iff] at hStep
        rcases hStep with ⟨changed, hChange, hSet⟩
        cases hSet
        rw [stored?_setSlot] at hStored
        by_cases hSlot : entry.1 = slot
        · rw [if_pos hSlot] at hStored
          subst hSlot
          exact
            Or.inl
              ⟨entry.2, changed, List.mem_cons_self, hChange,
                hStored⟩
        · rw [if_neg hSlot] at hStored
          right
          refine ⟨?_, hStored⟩
          intro value hMem
          rcases List.mem_cons.mp hMem with hFirst | hLater
          · rw [← hFirst] at hSlot
            exact hSlot rfl
          · exact hNone value hLater

theorem changed_of_tryMap
    {change : Slot → α → Except ε β}
    {map : LevelMap α}
    {out : LevelMap β}
    (hMap : map.tryMap change = .ok out) :
    Changed change map out := by
  rw [tryMap_eq_foldlM] at hMap
  intro slot
  rcases foldlM_changeSlot hMap slot with
    ⟨value, changed, hMem, hChange, hStored⟩ | ⟨hNone, hStored⟩
  · rw [mem_slots_iff] at hMem
    rw [hMem]
    exact ⟨changed, hChange, hStored⟩
  · cases hValue : map.stored? slot with
    | some value =>
        rw [← mem_slots_iff] at hValue
        exact absurd hValue (hNone value)
    | none =>
        rw [hStored]
        exact stored?_empty slot

/- If every value can be changed, so can the map. -/
theorem exists_tryMap
    {change : Slot → α → Except ε β}
    {map : LevelMap α}
    (hAll :
      ∀ slot value,
        map.stored? slot = some value →
          ∃ changed, change slot value = .ok changed) :
    ∃ out, map.tryMap change = .ok out := by
  have hFold :
      ∀ (entries : List (Slot × α)) (before : LevelMap β),
        (∀ entry ∈ entries,
          ∃ changed, change entry.1 entry.2 = .ok changed) →
        ∃ after,
          entries.foldlM (changeSlot change) before =
            .ok after := by
    intro entries
    induction entries with
    | nil => exact fun before _ => ⟨before, rfl⟩
    | cons entry entries ih =>
        intro before hEntries
        rw [List.forall_mem_cons] at hEntries
        rcases hEntries with ⟨⟨changed, hChange⟩, hRest⟩
        rcases ih (before.setSlot entry.1 changed) hRest with
          ⟨after, hAfter⟩
        refine ⟨after, ?_⟩
        rw [List.foldlM_cons, bind_eq_ok_iff]
        refine ⟨_, ?_, hAfter⟩
        rw [changeSlot, hChange]
        rfl
  rw [tryMap_eq_foldlM]
  apply hFold
  rintro ⟨slot, value⟩ hMem
  exact hAll slot value ((mem_slots_iff map slot value).mp hMem)

/- A map can be changed if the values of all its slots can. -/
theorem exists_tryMap_iff
    (change : Slot → α → Except ε β)
    (map : LevelMap α) :
    (∃ out, map.tryMap change = .ok out) ↔
      ∀ slot value,
        map.stored? slot = some value →
          ∃ changed, change slot value = .ok changed := by
  constructor
  · rintro ⟨out, hMap⟩ slot value hStored
    have hSlot := changed_of_tryMap hMap slot
    rw [hStored] at hSlot
    rcases hSlot with ⟨changed, hChange, -⟩
    exact ⟨changed, hChange⟩
  · exact exists_tryMap

/- Changing a map fails as the change of one of its values. -/
theorem exists_of_tryMap_eq_error
    {change : Slot → α → Except ε β}
    {map : LevelMap α}
    {fault : ε}
    (hFault : map.tryMap change = .error fault) :
    ∃ slot value,
      map.stored? slot = some value ∧
        change slot value = .error fault := by
  have hFold :
      ∀ (entries : List (Slot × α)) (before : LevelMap β),
        entries.foldlM (changeSlot change) before =
            .error fault →
          ∃ entry ∈ entries,
            change entry.1 entry.2 = .error fault := by
    intro entries
    induction entries with
    | nil =>
        intro before hNever
        cases hNever
    | cons entry entries ih =>
        intro before hEntries
        rw [List.foldlM_cons, bind_eq_error_iff] at hEntries
        rcases hEntries with hFirst | ⟨following, -, hRest⟩
        · rw [changeSlot, bind_eq_error_iff] at hFirst
          rcases hFirst with hHere | ⟨changed, -, hNever⟩
          · exact ⟨entry, List.mem_cons_self, hHere⟩
          · cases hNever
        · rcases ih following hRest with ⟨other, hMem, hOther⟩
          exact ⟨other, List.mem_cons_of_mem entry hMem, hOther⟩
  rw [tryMap_eq_foldlM] at hFault
  rcases hFold map.slots empty hFault with
    ⟨⟨slot, value⟩, hMem, hChange⟩
  exact
    ⟨slot, value, (mem_slots_iff map slot value).mp hMem, hChange⟩

/- The value of a level comes from the slot that had the old one. -/
theorem Changed.get?
    {change : Slot → α → Except ε β}
    {map : LevelMap α}
    {out : LevelMap β}
    (hChanged : Changed change map out)
    {level : Level}
    {value : α}
    (hValue : map.get? level = some value) :
    ∃ slot changed,
      map.stored? slot = some value ∧
      change slot value = .ok changed ∧
      out.get? level = some changed := by
  unfold LevelMap.get? at hValue
  have hOwn := hChanged (.level level)
  have hDefault := hChanged .default
  cases hExplicit : map.explicit? level with
  | some own =>
      have hStored : map.stored? (.level level) = some own :=
        hExplicit
      rw [hExplicit, Option.some_or, Option.some.injEq] at hValue
      subst hValue
      rw [hStored] at hOwn
      rcases hOwn with ⟨changed, hChange, hOut⟩
      refine ⟨_, changed, hStored, hChange, ?_⟩
      have hOutOwn : out.explicit? level = some changed := hOut
      rw [LevelMap.get?, hOutOwn, Option.some_or]
  | none =>
      have hStored : map.stored? (.level level) = none :=
        hExplicit
      rw [hExplicit, Option.none_or] at hValue
      have hShared : map.stored? .default = some value := hValue
      rw [hStored] at hOwn
      rw [hShared] at hDefault
      rcases hDefault with ⟨changed, hChange, hOut⟩
      refine ⟨_, changed, hShared, hChange, ?_⟩
      have hOutOwn : out.explicit? level = none := hOwn
      rw [LevelMap.get?, hOutOwn, Option.none_or]
      exact hOut

/- A level without a value gets none. -/
theorem Changed.get?_eq_none
    {change : Slot → α → Except ε β}
    {map : LevelMap α}
    {out : LevelMap β}
    (hChanged : Changed change map out)
    {level : Level}
    (hNone : map.get? level = none) :
    out.get? level = none := by
  unfold LevelMap.get? at hNone ⊢
  rcases Option.or_eq_none_iff.mp hNone with ⟨hOwn, hDefault⟩
  have hOutOwn := hChanged (.level level)
  have hOutDefault := hChanged .default
  have hStoredOwn : map.stored? (.level level) = none := hOwn
  have hStoredDefault : map.stored? .default = none := hDefault
  rw [hStoredOwn] at hOutOwn
  rw [hStoredDefault] at hOutDefault
  exact Option.or_eq_none_iff.mpr ⟨hOutOwn, hOutDefault⟩

theorem exists_stored?_of_get?
    {map : LevelMap α}
    {level : Level}
    {value : α}
    (hValue : map.get? level = some value) :
    ∃ slot, map.stored? slot = some value := by
  unfold LevelMap.get? at hValue
  rcases Option.or_eq_some_iff.mp hValue with
    hOwn | ⟨-, hDefault⟩
  · exact ⟨.level level, hOwn⟩
  · exact ⟨.default, hDefault⟩

/- A changed value comes from a slot of the map. -/
theorem Changed.exists_of_get?
    {change : Slot → α → Except ε β}
    {map : LevelMap α}
    {out : LevelMap β}
    (hChanged : Changed change map out)
    {level : Level}
    {changed : β}
    (hValue : out.get? level = some changed) :
    ∃ slot value,
      map.stored? slot = some value ∧
        change slot value = .ok changed := by
  rcases exists_stored?_of_get? hValue with ⟨slot, hStored⟩
  have hSlot := hChanged slot
  cases hOld : map.stored? slot with
  | none =>
      rw [hOld] at hSlot
      have hNone : out.stored? slot = none := hSlot
      rw [hNone] at hStored
      cases hStored
  | some value =>
      rw [hOld] at hSlot
      rcases hSlot with ⟨found, hChange, hFound⟩
      rw [hStored, Option.some.injEq] at hFound
      rw [← hFound] at hChange
      exact ⟨slot, value, hOld, hChange⟩

theorem exists_get?_of_firstMissing?
    {map : LevelMap α}
    (hComplete : map.firstMissing? = none)
    (level : Level) :
    ∃ value, map.get? level = some value := by
  unfold firstMissing? at hComplete
  rw [List.find?_eq_none] at hComplete
  have hSome := hComplete level (Level.mem_all level)
  rw [Option.isNone_iff_eq_none] at hSome
  exact Option.ne_none_iff_exists'.mp hSome

theorem firstMissing?_eq_none_iff
    (map : LevelMap α) :
    map.firstMissing? = none ↔
      ∀ level, ∃ value, map.get? level = some value := by
  constructor
  · exact exists_get?_of_firstMissing?
  · intro hAll
    unfold firstMissing?
    rw [List.find?_eq_none]
    intro level _ hNone
    rcases hAll level with ⟨value, hValue⟩
    rw [hValue] at hNone
    cases hNone

/- The values of all levels are those that the levels have. -/
theorem get?_of_resolved
    {map : LevelMap α}
    {values : Level → α}
    (hResolved : map.resolved = .ok values)
    (level : Level) :
    map.get? level = some (values level) := by
  have hRequire :
      ∀ (other : Level) (value : α),
        map.require other = .ok value →
          map.get? other = some value := by
    intro other value hSome
    unfold require at hSome
    cases hValue : map.get? other with
    | none =>
        rw [hValue] at hSome
        cases hSome
    | some found =>
        rw [hValue] at hSome
        cases hSome
        rfl
  unfold resolved at hResolved
  simp only [bind_eq_ok_iff] at hResolved
  rcases hResolved with
    ⟨debug, hDebug, info, hInfo, warning, hWarning, error,
      hError, critical, hCritical, hValues⟩
  cases hValues
  cases level with
  | debug => exact hRequire _ _ hDebug
  | info => exact hRequire _ _ hInfo
  | warning => exact hRequire _ _ hWarning
  | error => exact hRequire _ _ hError
  | critical => exact hRequire _ _ hCritical

/- If all levels have values, none is missed. -/
theorem exists_resolved
    {map : LevelMap α}
    (hAll : ∀ level, ∃ value, map.get? level = some value) :
    ∃ values, map.resolved = .ok values := by
  have hRequire :
      ∀ level, ∃ value, map.require level = .ok value := by
    intro level
    rcases hAll level with ⟨value, hValue⟩
    refine ⟨value, ?_⟩
    rw [require, hValue]
  rcases hRequire .debug with ⟨debug, hDebug⟩
  rcases hRequire .info with ⟨info, hInfo⟩
  rcases hRequire .warning with ⟨warning, hWarning⟩
  rcases hRequire .error with ⟨error, hError⟩
  rcases hRequire .critical with ⟨critical, hCritical⟩
  unfold resolved
  rw [hDebug, hInfo, hWarning, hError, hCritical]
  exact ⟨_, rfl⟩

/- A change leaves no level out, so that none is missed then. -/
theorem Changed.exists_resolved
    {ε : Type}
    {change : Slot → α → Except ε β}
    {map : LevelMap α}
    {out : LevelMap β}
    (hChanged : Changed change map out)
    (hAll : ∀ level, ∃ value, map.get? level = some value) :
    ∃ values, out.resolved = .ok values := by
  apply LevelMap.exists_resolved
  intro level
  rcases hAll level with ⟨value, hValue⟩
  rcases hChanged.get? hValue with ⟨slot, changed, -, -, hOut⟩
  exact ⟨changed, hOut⟩

end LevelMap

end LogLine
