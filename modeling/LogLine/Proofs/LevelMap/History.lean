import LogLine.Proofs.LevelMap

/-
  Level maps over their histories: what was stored last in
  every slot determines all that can be read from a map, and
  a change that can fail goes from slot to slot in order.

  Key definitions include:
    * `LogLine.LevelMap.Shows`
    * `LogLine.outcome`
    * `LogLine.LevelMap.Calls`
    * `LogLine.LevelMap.TriesInOrder`
    * `LogLine.LevelMap.Reached`

  Key theorems include:
    * `LogLine.LevelMap.shows_stored?`
    * `LogLine.LevelMap.outcome_tryMap_eq_ok_iff`
    * `LogLine.LevelMap.outcome_tryMap_eq_error_iff`
    * `LogLine.LevelMap.triesInOrder`
    * `LogLine.LevelMap.Reached.exists_of_tryMap`
    * `LogLine.LevelMap.Reached.eq_storeAll`
    * `LogLine.history_determines_views`
-/

------------------------------------------------------------
-- Views
------------------------------------------------------------

namespace LogLine

namespace Slot

/- Levels stand in the order of their ranks, the default last. -/
def Before : Slot → Slot → Prop
  | .level lower, .level upper => lower.rank < upper.rank
  | .level _, .default => True
  | .default, _ => False

instance decidableBefore :
    ∀ first second, Decidable (Before first second)
  | .level lower, .level upper =>
      inferInstanceAs (Decidable (lower.rank < upper.rank))
  | .level _, .default => isTrue trivial
  | .default, _ => isFalse id

theorem pairwise_all :
    all.Pairwise Before := by
  decide

end Slot

namespace LevelMap

variable {α : Type}

/- The slot that the value of a level is taken from. -/
def source?
    (map : LevelMap α)
    (level : Level) :
    Option Slot :=
  if (map.explicit? level).isSome then
    some (.level level)
  else if map.default.isSome then
    some .default
  else
    none

/-
  All that can be read from a map in which the slots hold
  these values.
-/
structure Shows
    (map : LevelMap α)
    (stored : Slot → Option α) : Prop where
  explicit :
    ∀ level, map.explicit? level = stored (.level level)
  default : map.default = stored .default
  get :
    ∀ level,
      map.get? level =
        (stored (.level level)).or (stored .default)
  source :
    ∀ level, map.get? level = (map.source? level).bind stored
  slots_mem :
    ∀ slot value,
      (slot, value) ∈ map.slots ↔ stored slot = some value
  slots_order : (map.slots.map Prod.fst).Pairwise Slot.Before
  effective_mem :
    ∀ level value,
      (level, value) ∈ map.effective ↔ map.get? level = value
  effective_order :
    (map.effective.map Prod.fst).Pairwise fun lower upper =>
      lower.rank < upper.rank
  getD_some :
    ∀ level value fallback,
      map.get? level = some value →
        map.getD level fallback = value
  getD_none :
    ∀ level fallback,
      map.get? level = none → map.getD level fallback = fallback
  isEmpty :
    map.isEmpty = true ↔ ∀ slot, stored slot = none
  firstMissing :
    ∀ level,
      map.firstMissing? = some level ↔
        map.get? level = none ∧
          ∀ lower : Level, lower.rank < level.rank →
            map.get? lower ≠ none
  isComplete :
    map.isComplete = true ↔ ∀ level, map.get? level ≠ none
  resolved_ok :
    ∀ values,
      map.resolved = .ok values ↔
        ∀ level, map.get? level = some (values level)
  resolved_error :
    ∀ level,
      map.resolved = .error level ↔
        map.firstMissing? = some level

theorem get?_eq_bind_source?
    (map : LevelMap α)
    (level : Level) :
    map.get? level = (map.source? level).bind map.stored? := by
  unfold get? source?
  cases hOwn : map.explicit? level with
  | some own => exact hOwn.symm
  | none =>
      cases hDefault : map.default with
      | some value => exact hDefault.symm
      | none => rfl

theorem map_fst_slots
    (map : LevelMap α) :
    map.slots.map Prod.fst =
      Slot.all.filter fun slot => (map.stored? slot).isSome := by
  unfold slots
  rw [List.map_filterMap, ← List.filterMap_eq_filter]
  apply List.filterMap_congr
  intro slot _
  cases hStored : map.stored? slot with
  | none => simp [Option.guard, hStored]
  | some value => simp [Option.guard, hStored]

theorem pairwise_slots
    (map : LevelMap α) :
    (map.slots.map Prod.fst).Pairwise Slot.Before := by
  rw [map_fst_slots]
  exact Slot.pairwise_all.filter _

theorem isEmpty_iff
    (map : LevelMap α) :
    map.isEmpty = true ↔ ∀ slot, map.stored? slot = none := by
  unfold isEmpty
  rw [List.isEmpty_iff, ← List.map_eq_nil_iff, map_fst_slots,
    List.filter_eq_nil_iff]
  constructor
  · intro hAll slot
    simpa using hAll slot slot.mem_all
  · intro hAll slot _
    simp [hAll slot]

theorem mem_effective_iff
    (map : LevelMap α)
    (level : Level)
    (value : Option α) :
    (level, value) ∈ map.effective ↔ map.get? level = value := by
  unfold effective
  rw [List.mem_map]
  constructor
  · rintro ⟨other, -, hPair⟩
    cases hPair
    rfl
  · rintro rfl
    exact ⟨level, level.mem_all, rfl⟩

theorem map_fst_effective
    (map : LevelMap α) :
    map.effective.map Prod.fst = Level.all := by
  unfold effective
  rw [List.map_map]
  exact List.map_id _

theorem exists_require_iff
    (map : LevelMap α)
    (level : Level) :
    (∃ value, map.require level = .ok value) ↔
      map.get? level ≠ none := by
  unfold require
  cases map.get? level with
  | none => simp
  | some value => simp

theorem require_eq_error_iff
    (map : LevelMap α)
    (level missing : Level) :
    map.require level = .error missing ↔
      map.get? level = none ∧ level = missing := by
  unfold require
  cases map.get? level with
  | none => simp
  | some value => simp

/- The first level that has no value is the lowest such one. -/
theorem failsFirst_require_iff
    (map : LevelMap α)
    (missing : Level) :
    FailsFirst map.require Level.all missing ↔
      map.get? missing = none ∧
        ∀ lower : Level, lower.rank < missing.rank →
          map.get? lower ≠ none := by
  rw [Level.failsFirst_all_iff]
  simp only [require_eq_error_iff, exists_require_iff]
  constructor
  · rintro ⟨level, ⟨hNone, rfl⟩, hLower⟩
    exact ⟨hNone, hLower⟩
  · rintro ⟨hNone, hLower⟩
    exact ⟨missing, ⟨hNone, rfl⟩, hLower⟩

theorem firstMissing?_eq_some_iff
    (map : LevelMap α)
    (missing : Level) :
    map.firstMissing? = some missing ↔
      FailsFirst map.require Level.all missing := by
  unfold firstMissing? FailsFirst
  rw [List.find?_eq_some_iff_append]
  simp only [require_eq_error_iff, exists_require_iff,
    Option.isNone_iff_eq_none, Bool.not_eq_true',
    Option.isNone_eq_false_iff, Option.isSome_iff_ne_none]
  constructor
  · rintro ⟨hNone, before, after, hAll, hBefore⟩
    exact ⟨before, missing, after, hAll, hBefore, hNone, rfl⟩
  · rintro ⟨before, level, after, hAll, hBefore, hNone, rfl⟩
    exact ⟨hNone, before, after, hAll, hBefore⟩

/- The levels are asked in the order of their ranks. -/
theorem map_resolved
    (map : LevelMap α) :
    map.resolved.map (fun values => Level.all.map values) =
      Level.all.mapM map.require := by
  unfold resolved Level.all
  simp only [List.mapM_cons, List.mapM_nil]
  cases map.require .debug with
  | error missing => rfl
  | ok debug =>
      cases map.require .info with
      | error missing => rfl
      | ok info =>
          cases map.require .warning with
          | error missing => rfl
          | ok warning =>
              cases map.require .error with
              | error missing => rfl
              | ok error =>
                  cases map.require .critical with
                  | error missing => rfl
                  | ok critical => rfl

theorem resolved_eq_error_iff
    (map : LevelMap α)
    (missing : Level) :
    map.resolved = .error missing ↔
      map.firstMissing? = some missing := by
  rw [firstMissing?_eq_some_iff, ← mapM_eq_error_iff,
    ← map_resolved, map_eq_error_iff]

theorem resolved_eq_ok_iff
    (map : LevelMap α)
    (values : Level → α) :
    map.resolved = .ok values ↔
      ∀ level, map.get? level = some (values level) := by
  constructor
  · exact get?_of_resolved
  · intro hAll
    rcases exists_resolved fun level => ⟨_, hAll level⟩ with
      ⟨others, hOthers⟩
    have hSame : others = values := by
      funext level
      have hOther := get?_of_resolved hOthers level
      rw [hAll level, Option.some.injEq] at hOther
      exact hOther.symm
    rw [hOthers, hSame]

theorem isComplete_iff
    (map : LevelMap α) :
    map.isComplete = true ↔ ∀ level, map.get? level ≠ none := by
  unfold isComplete
  rw [Option.isNone_iff_eq_none, firstMissing?_eq_none_iff]
  simp only [ne_eq, Option.ne_none_iff_exists']

/- Whatever the slots hold, the views agree on it. -/
theorem shows_stored?
    (map : LevelMap α) :
    map.Shows map.stored? where
  explicit := fun _ => rfl
  default := rfl
  get := fun _ => rfl
  source := map.get?_eq_bind_source?
  slots_mem := map.mem_slots_iff
  slots_order := map.pairwise_slots
  effective_mem := map.mem_effective_iff
  effective_order := by
    rw [map_fst_effective]
    exact Level.pairwise_all
  getD_some := by
    intro level value fallback hValue
    rw [getD, hValue, Option.getD_some]
  getD_none := by
    intro level fallback hNone
    rw [getD, hNone, Option.getD_none]
  isEmpty := map.isEmpty_iff
  firstMissing := fun missing =>
    (map.firstMissing?_eq_some_iff missing).trans
      (map.failsFirst_require_iff missing)
  isComplete := map.isComplete_iff
  resolved_ok := map.resolved_eq_ok_iff
  resolved_error := map.resolved_eq_error_iff

end LevelMap

end LogLine

------------------------------------------------------------
-- Actions That Fail and Keep a State
------------------------------------------------------------

namespace LogLine

variable {σ ε α β : Type}

/- What an action gives in a state, and the state it leaves. -/
def outcome
    (action : ExceptT ε (StateM σ) α)
    (state : σ) :
    Except ε α × σ :=
  action.run.run state

theorem outcome_pure
    (value : α)
    (state : σ) :
    outcome (pure value : ExceptT ε (StateM σ) α) state =
      (.ok value, state) :=
  rfl

/- The second action starts where the first one succeeded. -/
theorem outcome_bind
    (first : ExceptT ε (StateM σ) α)
    (second : α → ExceptT ε (StateM σ) β)
    (before : σ) :
    outcome (first >>= second) before =
      match outcome first before with
      | (.ok value, middle) => outcome (second value) middle
      | (.error fault, middle) => (.error fault, middle) := by
  unfold outcome
  rw [ExceptT.run_bind, StateT.run_bind]
  cases hFirst : first.run.run before with
  | mk result middle =>
      cases result with
      | ok value => rfl
      | error fault => rfl

theorem outcome_bind_eq_ok_iff
    (first : ExceptT ε (StateM σ) α)
    (second : α → ExceptT ε (StateM σ) β)
    (before after : σ)
    (result : β) :
    outcome (first >>= second) before = (.ok result, after) ↔
      ∃ value middle,
        outcome first before = (.ok value, middle) ∧
          outcome (second value) middle = (.ok result, after) := by
  rw [outcome_bind]
  rcases outcome first before with ⟨⟨fault⟩ | ⟨value⟩, middle⟩
  · simp
  · simp

theorem outcome_bind_eq_error_iff
    (first : ExceptT ε (StateM σ) α)
    (second : α → ExceptT ε (StateM σ) β)
    (before after : σ)
    (fault : ε) :
    outcome (first >>= second) before = (.error fault, after) ↔
      outcome first before = (.error fault, after) ∨
        ∃ value middle,
          outcome first before = (.ok value, middle) ∧
            outcome (second value) middle =
              (.error fault, after) := by
  rw [outcome_bind]
  rcases outcome first before with ⟨⟨other⟩ | ⟨value⟩, middle⟩
  · simp
  · simp

end LogLine

------------------------------------------------------------
-- Calls
------------------------------------------------------------

namespace LogLine

namespace LevelMap

variable {σ ε α β : Type}

/-
  Calls of a change for one entry after the other, all of
  which succeed, with what they give.  Each starts in the
  state that the one in front of it left.
-/
inductive Calls
    (change : Slot → α → ExceptT ε (StateM σ) β) :
    σ → List (Slot × α) → List (Slot × β) → σ → Prop where
  | nil
      (state : σ) :
      Calls change state [] [] state
  | cons
      {before middle after : σ}
      {slot : Slot}
      {value : α}
      {changed : β}
      {entries : List (Slot × α)}
      {results : List (Slot × β)}
      (hCall :
        outcome (change slot value) before =
          (.ok changed, middle))
      (hRest : Calls change middle entries results after) :
      Calls change before ((slot, value) :: entries)
        ((slot, changed) :: results) after

/- The same change, with a list of the calls made so far. -/
def recorded
    (change : Slot → α → ExceptT ε (StateM σ) β)
    (slot : Slot)
    (value : α) :
    ExceptT ε (StateM (σ × List (Slot × α))) β :=
  ExceptT.mk fun (state, calls) =>
    let (result, next) := outcome (change slot value) state
    (result, (next, calls ++ [(slot, value)]))

theorem outcome_recorded
    (change : Slot → α → ExceptT ε (StateM σ) β)
    (slot : Slot)
    (value : α)
    (state : σ)
    (calls : List (Slot × α)) :
    outcome (recorded change slot value) (state, calls) =
      ((outcome (change slot value) state).1,
        ((outcome (change slot value) state).2,
          calls ++ [(slot, value)])) :=
  rfl

variable {change : Slot → α → ExceptT ε (StateM σ) β}
variable {before middle after : σ}
variable {entries : List (Slot × α)}
variable {results : List (Slot × β)}

namespace Calls

theorem map_fst
    (hCalls : Calls change before entries results after) :
    results.map Prod.fst = entries.map Prod.fst := by
  induction hCalls with
  | nil state => rfl
  | cons hCall hRest ih => rw [List.map_cons, ih, List.map_cons]

/- The calls are those for the entries, in their order. -/
theorem calls_recorded
    (hCalls : Calls change before entries results after)
    (calls : List (Slot × α)) :
    Calls (LevelMap.recorded change) (before, calls) entries
      results (after, calls ++ entries) := by
  induction hCalls generalizing calls with
  | nil state =>
      rw [List.append_nil]
      exact .nil _
  | cons hCall hRest ih =>
      rw [List.append_cons]
      refine .cons ?_ (ih _)
      rw [outcome_recorded, hCall]

end Calls

/- One step of changing a map. -/
def changeNext
    (change : Slot → α → ExceptT ε (StateM σ) β)
    (out : LevelMap β)
    (entry : Slot × α) :
    ExceptT ε (StateM σ) (LevelMap β) := do
  let changed ← change entry.1 entry.2
  return out.setSlot entry.1 changed

theorem outcome_changeNext_eq_ok_iff
    (out next : LevelMap β)
    (entry : Slot × α) :
    outcome (changeNext change out entry) before =
        (.ok next, after) ↔
      ∃ changed,
        outcome (change entry.1 entry.2) before =
          (.ok changed, after) ∧
        out.setSlot entry.1 changed = next := by
  unfold changeNext
  rw [outcome_bind_eq_ok_iff]
  simp only [outcome_pure, Prod.mk.injEq, Except.ok.injEq]
  constructor
  · rintro ⟨changed, middle, hCall, hNext, rfl⟩
    exact ⟨changed, hCall, hNext⟩
  · rintro ⟨changed, hCall, hNext⟩
    exact ⟨changed, after, hCall, hNext, rfl⟩

theorem outcome_changeNext_eq_error_iff
    (out : LevelMap β)
    (entry : Slot × α)
    (fault : ε) :
    outcome (changeNext change out entry) before =
        (.error fault, after) ↔
      outcome (change entry.1 entry.2) before =
        (.error fault, after) := by
  unfold changeNext
  rw [outcome_bind_eq_error_iff]
  simp only [outcome_pure, Prod.mk.injEq, reduceCtorEq,
    false_and, and_false, exists_false, or_false]

/- A map is changed if all calls succeed, and holds their results. -/
theorem outcome_foldlM_eq_ok_iff
    (entries : List (Slot × α))
    (start out : LevelMap β)
    (before : σ) :
    outcome (entries.foldlM (changeNext change) start) before =
        (.ok out, after) ↔
      ∃ results,
        Calls change before entries results after ∧
          start.storeAll results = out := by
  induction entries generalizing start before with
  | nil =>
      rw [List.foldlM_nil, outcome_pure]
      constructor
      · intro hSame
        cases hSame
        exact ⟨[], .nil _, rfl⟩
      · rintro ⟨results, hCalls, hOut⟩
        cases hCalls
        rw [← hOut]
        rfl
  | cons entry entries ih =>
      rw [List.foldlM_cons, outcome_bind_eq_ok_iff]
      simp only [outcome_changeNext_eq_ok_iff, ih]
      constructor
      · rintro ⟨_, middle, ⟨changed, hCall, rfl⟩, results, hRest,
          hOut⟩
        exact ⟨_, .cons hCall hRest, hOut⟩
      · rintro ⟨results, hCalls, hOut⟩
        cases hCalls with
        | cons hCall hRest =>
            exact ⟨_, _, ⟨_, hCall, rfl⟩, _, hRest, hOut⟩

/- Otherwise the first call that fails is the last one made. -/
theorem outcome_foldlM_eq_error_iff
    (entries : List (Slot × α))
    (start : LevelMap β)
    (before : σ)
    (fault : ε) :
    outcome (entries.foldlM (changeNext change) start) before =
        (.error fault, after) ↔
      ∃ called slot value uncalled results middle,
        entries = called ++ (slot, value) :: uncalled ∧
        Calls change before called results middle ∧
        outcome (change slot value) middle =
          (.error fault, after) := by
  induction entries generalizing start before with
  | nil =>
      rw [List.foldlM_nil, outcome_pure]
      constructor
      · intro hNever
        cases hNever
      · rintro ⟨called, slot, value, uncalled, results, middle,
          hSplit, -⟩
        simp at hSplit
  | cons entry entries ih =>
      rw [List.foldlM_cons, outcome_bind_eq_error_iff]
      simp only [outcome_changeNext_eq_ok_iff,
        outcome_changeNext_eq_error_iff, ih]
      constructor
      · rintro (hFault | ⟨_, next, ⟨changed, hCall, -⟩, called,
          slot, value, uncalled, results, middle, rfl, hCalls,
          hFault⟩)
        · exact
            ⟨[], _, _, entries, [], before, rfl, .nil before,
              hFault⟩
        · exact
            ⟨entry :: called, slot, value, uncalled, _, middle,
              rfl, .cons hCall hCalls, hFault⟩
      · rintro ⟨called, slot, value, uncalled, results, middle,
          hSplit, hCalls, hFault⟩
        cases hCalls with
        | nil =>
            cases hSplit
            exact Or.inl hFault
        | cons hCall hRest =>
            cases hSplit
            exact
              Or.inr
                ⟨_, _, ⟨_, hCall, rfl⟩, _, slot, value, uncalled,
                  _, middle, rfl, hRest, hFault⟩

end LevelMap

end LogLine

------------------------------------------------------------
-- Changed Maps
------------------------------------------------------------

namespace LogLine

namespace LevelMap

variable {σ ε α β : Type}

/-
  The map that holds these results.  A level finds the result
  for the slot in which it found its old value, if any.
-/
structure ChangedTo
    (map : LevelMap α)
    (results : List (Slot × β))
    (out : LevelMap β) : Prop where
  stored :
    ∀ slot changed,
      out.stored? slot = some changed ↔
        (slot, changed) ∈ results
  found :
    ∀ level slot,
      map.source? level = some slot →
        ∃ changed,
          (slot, changed) ∈ results ∧
            out.get? level = some changed
  missed :
    ∀ level, map.source? level = none → out.get? level = none

/- The calls that changing a map makes, in their order. -/
def callsOf
    (map : LevelMap α)
    (change : Slot → α → ExceptT ε (StateM σ) β)
    (before : σ) :
    List (Slot × α) :=
  (outcome (map.tryMap (recorded change)) (before, [])).2.2

/-
  A change is called for the slots of a map in order and, as
  soon as one call fails, for none of the slots behind it.
-/
structure TriesInOrder
    (map : LevelMap α)
    (change : Slot → α → ExceptT ε (StateM σ) β)
    (before : σ) : Prop where
  succeeds :
    ∀ out after,
      outcome (map.tryMap change) before = (.ok out, after) ↔
        ∃ results,
          Calls change before map.slots results after ∧
          map.callsOf change before = map.slots ∧
          map.ChangedTo results out
  fails :
    ∀ fault after,
      outcome (map.tryMap change) before =
          (.error fault, after) ↔
        ∃ called slot value uncalled results middle,
          map.slots = called ++ (slot, value) :: uncalled ∧
          Calls change before called results middle ∧
          outcome (change slot value) middle =
            (.error fault, after) ∧
          map.callsOf change before = called ++ [(slot, value)]

theorem isSome_stored?_of_source?
    {map : LevelMap α}
    {level : Level}
    {slot : Slot}
    (hSource : map.source? level = some slot) :
    (map.stored? slot).isSome = true := by
  unfold source? at hSource
  split at hSource
  case isTrue hOwn =>
      cases hSource
      exact hOwn
  case isFalse =>
      split at hSource
      case isTrue hDefault =>
          cases hSource
          exact hDefault
      case isFalse => cases hSource

/- Only which slots are filled tells where a level looks. -/
theorem source?_congr
    {map : LevelMap α}
    {out : LevelMap β}
    (hSame :
      ∀ slot,
        (out.stored? slot).isSome = (map.stored? slot).isSome)
    (level : Level) :
    out.source? level = map.source? level := by
  have hOwn :
      (out.explicit? level).isSome =
        (map.explicit? level).isSome :=
    hSame (.level level)
  have hDefault : out.default.isSome = map.default.isSome :=
    hSame .default
  unfold source?
  rw [hOwn, hDefault]

theorem isSome_stored?_iff_mem
    (map : LevelMap α)
    (slot : Slot) :
    (map.stored? slot).isSome = true ↔
      slot ∈ map.slots.map Prod.fst := by
  rw [map_fst_slots, List.mem_filter]
  exact (and_iff_right slot.mem_all).symm

variable {change : Slot → α → ExceptT ε (StateM σ) β}
variable {before after : σ}
variable {map : LevelMap α}

theorem tryMap_eq_foldlM_changeNext
    (map : LevelMap α)
    (change : Slot → α → ExceptT ε (StateM σ) β) :
    map.tryMap change =
      map.slots.foldlM (changeNext change) empty :=
  rfl

theorem outcome_tryMap_eq_ok_iff
    (out : LevelMap β) :
    outcome (map.tryMap change) before = (.ok out, after) ↔
      ∃ results,
        Calls change before map.slots results after ∧
          empty.storeAll results = out := by
  rw [tryMap_eq_foldlM_changeNext, outcome_foldlM_eq_ok_iff]

theorem outcome_tryMap_eq_error_iff
    (fault : ε) :
    outcome (map.tryMap change) before = (.error fault, after) ↔
      ∃ called slot value uncalled results middle,
        map.slots = called ++ (slot, value) :: uncalled ∧
        Calls change before called results middle ∧
        outcome (change slot value) middle =
          (.error fault, after) := by
  rw [tryMap_eq_foldlM_changeNext, outcome_foldlM_eq_error_iff]

/- Each slot of a map has one result, and no other slot has one. -/
theorem Calls.changedTo
    {results : List (Slot × β)}
    (hCalls : Calls change before map.slots results after) :
    map.ChangedTo results (empty.storeAll results) := by
  have hKeys := hCalls.map_fst
  have hNodup := map.nodup_slots
  rw [← hKeys] at hNodup
  have hStored (slot : Slot) (changed : β) :
      (empty.storeAll results).stored? slot = some changed ↔
        (slot, changed) ∈ results := by
    rw [stored?_storeAll_empty, lastStored?_eq_some_iff hNodup]
  have hSame (slot : Slot) :
      ((empty.storeAll results).stored? slot).isSome =
        (map.stored? slot).isSome := by
    rw [Bool.eq_iff_iff, isSome_stored?_iff_mem map, ← hKeys,
      Option.isSome_iff_exists, List.mem_map]
    simp only [hStored]
    constructor
    · rintro ⟨changed, hMem⟩
      exact ⟨_, hMem, rfl⟩
    · rintro ⟨⟨_, changed⟩, hMem, rfl⟩
      exact ⟨changed, hMem⟩
  constructor
  case stored => exact hStored
  case found =>
      intro level slot hSource
      have hSome := isSome_stored?_of_source? hSource
      rw [← hSame, Option.isSome_iff_exists] at hSome
      rcases hSome with ⟨changed, hChanged⟩
      refine ⟨changed, (hStored _ _).mp hChanged, ?_⟩
      rw [get?_eq_bind_source?, source?_congr hSame, hSource]
      exact hChanged
  case missed =>
      intro level hSource
      rw [get?_eq_bind_source?, source?_congr hSame, hSource]
      rfl

theorem ChangedTo.eq
    {results : List (Slot × β)}
    {first second : LevelMap β}
    (hFirst : map.ChangedTo results first)
    (hSecond : map.ChangedTo results second) :
    first = second := by
  apply ext_stored?
  intro slot
  apply Option.ext
  intro changed
  rw [hFirst.stored, hSecond.stored]

theorem Calls.callsOf_eq
    {results : List (Slot × β)}
    (hCalls : Calls change before map.slots results after) :
    map.callsOf change before = map.slots := by
  have hRun :=
    (outcome_tryMap_eq_ok_iff _).mpr
      ⟨results, hCalls.calls_recorded [], rfl⟩
  rw [callsOf, hRun]
  rfl

theorem Calls.callsOf_eq_of_fault
    {called uncalled : List (Slot × α)}
    {results : List (Slot × β)}
    {slot : Slot}
    {value : α}
    {fault : ε}
    {middle : σ}
    (hSplit : map.slots = called ++ (slot, value) :: uncalled)
    (hCalls : Calls change before called results middle)
    (hFault :
      outcome (change slot value) middle =
        (.error fault, after)) :
    map.callsOf change before = called ++ [(slot, value)] := by
  have hLast :
      outcome (recorded change slot value) (middle, called) =
        (.error fault, (after, called ++ [(slot, value)])) := by
    rw [outcome_recorded, hFault]
  have hRun :=
    (outcome_tryMap_eq_error_iff fault).mpr
      ⟨called, slot, value, uncalled, results, _, hSplit,
        hCalls.calls_recorded [], hLast⟩
  rw [callsOf, hRun]

theorem triesInOrder
    (map : LevelMap α)
    (change : Slot → α → ExceptT ε (StateM σ) β)
    (before : σ) :
    map.TriesInOrder change before where
  succeeds := by
    intro out after
    rw [outcome_tryMap_eq_ok_iff]
    constructor
    · rintro ⟨results, hCalls, rfl⟩
      exact
        ⟨results, hCalls, hCalls.callsOf_eq, hCalls.changedTo⟩
    · rintro ⟨results, hCalls, -, hChanged⟩
      exact ⟨results, hCalls, hCalls.changedTo.eq hChanged⟩
  fails := by
    intro fault after
    rw [outcome_tryMap_eq_error_iff]
    constructor
    · rintro ⟨called, slot, value, uncalled, results, middle,
        hSplit, hCalls, hFault⟩
      exact
        ⟨called, slot, value, uncalled, results, middle, hSplit,
          hCalls, hFault, hCalls.callsOf_eq_of_fault hSplit hFault⟩
    · rintro ⟨called, slot, value, uncalled, results, middle,
        hSplit, hCalls, hFault, -⟩
      exact
        ⟨called, slot, value, uncalled, results, middle, hSplit,
          hCalls, hFault⟩

end LevelMap

end LogLine

------------------------------------------------------------
-- Histories
------------------------------------------------------------

namespace LogLine

namespace LevelMap

/-
  Maps by their histories, with all that was stored in order.
  A change that succeeds makes a new map, into which it stores
  its results only.
-/
inductive Reached :
    {α : Type} → LevelMap α → List (Slot × α) → Prop where
  | empty
      {α : Type} :
      Reached (empty : LevelMap α) []
  | uniform
      {α : Type}
      (value : α) :
      Reached (uniform value) [(.default, value)]
  | ofLevels
      {α : Type}
      (debug info warning error critical : α) :
      Reached (ofLevels debug info warning error critical)
        [(.level .debug, debug), (.level .info, info),
          (.level .warning, warning), (.level .error, error),
          (.level .critical, critical)]
  | set
      {α : Type}
      {map : LevelMap α}
      {stores : List (Slot × α)}
      (hMap : Reached map stores)
      (level : Level)
      (value : α) :
      Reached (map.set level value)
        (stores ++ [(.level level, value)])
  | setDefault
      {α : Type}
      {map : LevelMap α}
      {stores : List (Slot × α)}
      (hMap : Reached map stores)
      (value : α) :
      Reached (map.setDefault value)
        (stores ++ [(.default, value)])
  | tryMap
      {σ ε α β : Type}
      {map : LevelMap α}
      {stores : List (Slot × α)}
      {change : Slot → α → ExceptT ε (StateM σ) β}
      {before after : σ}
      {out : LevelMap β}
      {results : List (Slot × β)}
      (hMap : Reached map stores)
      (hOut :
        outcome (map.tryMap change) before = (.ok out, after))
      (hCalls : Calls change before map.slots results after) :
      Reached out results

/- No change that succeeds ends a history. -/
theorem Reached.exists_of_tryMap
    {σ ε α β : Type}
    {map : LevelMap α}
    {stores : List (Slot × α)}
    {change : Slot → α → ExceptT ε (StateM σ) β}
    {before after : σ}
    {out : LevelMap β}
    (hReached : Reached map stores)
    (hOut :
      outcome (map.tryMap change) before = (.ok out, after)) :
    ∃ results, Reached out results := by
  rcases (outcome_tryMap_eq_ok_iff _).mp hOut with
    ⟨results, hCalls, -⟩
  exact ⟨results, .tryMap hReached hOut hCalls⟩

/- A map is what its history stored, in whatever way. -/
theorem Reached.eq_storeAll
    {α : Type}
    {map : LevelMap α}
    {stores : List (Slot × α)}
    (hReached : Reached map stores) :
    map = LevelMap.empty.storeAll stores := by
  induction hReached with
  | empty => rfl
  | uniform value => rfl
  | ofLevels debug info warning error critical => rfl
  | set hMap level value ih =>
      rw [storeAll_append, ← ih]
      rfl
  | setDefault hMap value ih =>
      rw [storeAll_append, ← ih]
      rfl
  | tryMap hMap hOut hCalls ih =>
      have hRun :=
        (outcome_tryMap_eq_ok_iff _).mpr ⟨_, hCalls, rfl⟩
      rw [hOut] at hRun
      cases hRun
      rfl

end LevelMap

/-
  All that can be read from a map is what was stored last in
  its slots, whatever its history is; and a change that can
  fail goes through the slots in order, up to the first call
  that fails.
-/
theorem history_determines_views
    {α : Type}
    {map : LevelMap α}
    {stores : List (Slot × α)}
    (hReached : LevelMap.Reached map stores) :
    map.Shows (LevelMap.lastStored? stores) ∧
    ∀ {σ ε β : Type}
      (change : Slot → α → ExceptT ε (StateM σ) β)
      (before : σ),
      map.TriesInOrder change before := by
  have hStored : map.stored? = LevelMap.lastStored? stores := by
    funext slot
    rw [hReached.eq_storeAll, LevelMap.stored?_storeAll_empty]
  refine ⟨?_, ?_⟩
  · rw [← hStored]
    exact map.shows_stored?
  · intro σ ε β change before
    exact map.triesInOrder change before

/- Ten times the value and the number of the call, but not of 0. -/
def numberCalls
    (slot : Slot)
    (value : Nat) :
    ExceptT Slot (StateM Nat) Nat := do
  let calls ← get
  set (calls + 1)
  if value = 0 then
    throw slot
  return 10 * value + calls

/- Two numbered values, and behind them one that cannot be. -/
def numberedMap : LevelMap Nat :=
  ((LevelMap.empty.set .info 50).setDefault 71).set .error 0

def numberedStores : List (Slot × Nat) :=
  [(.level .info, 50), (.default, 71), (.level .error, 0)]

theorem reached_numberedMap :
    LevelMap.Reached numberedMap numberedStores := by
  have hMap :
      LevelMap.Reached ((LevelMap.uniform 7).set .info 5)
        [(.default, 7), (.level .info, 5)] :=
    .set (.uniform 7) .info 5
  have hOut :
      outcome
          (((LevelMap.uniform 7).set .info 5).tryMap numberCalls)
          0 =
        (.ok ((LevelMap.empty.set .info 50).setDefault 71), 2) :=
    rfl
  have hCalls :
      LevelMap.Calls numberCalls 0
        ((LevelMap.uniform 7).set .info 5).slots
        [(.level .info, 50), (.default, 71)] 2 :=
    .cons rfl (.cons rfl (.nil 2))
  exact .set (.tryMap hMap hOut hCalls) .error 0

/- The default stands behind the error and is not called for. -/
theorem history_determines_views_of_fault :
    LevelMap.Reached numberedMap numberedStores ∧
      numberedMap.Shows (LevelMap.lastStored? numberedStores) ∧
      numberedMap.TriesInOrder numberCalls 0 ∧
      outcome (numberedMap.tryMap numberCalls) 0 =
        (.error (.level .error), 2) ∧
      numberedMap.callsOf numberCalls 0 =
        [(.level .info, 50), (.level .error, 0)] := by
  rcases history_determines_views reached_numberedMap with
    ⟨hShows, hTries⟩
  exact
    ⟨reached_numberedMap, hShows, hTries numberCalls 0, rfl, rfl⟩

end LogLine
