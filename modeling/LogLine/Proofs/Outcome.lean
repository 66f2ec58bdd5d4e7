import LogLine.Text

/-
  What a computation that can fail did when it succeeded, and
  what failed in it when it did not.

  Key definitions include:
    * `LogLine.FailsFirst`

  Key theorems include:
    * `LogLine.bind_eq_ok_iff`
    * `LogLine.bind_eq_error_iff`
    * `LogLine.if_failed_eq_ok_iff`
    * `LogLine.forM_eq_ok_iff`
    * `LogLine.map_eq_ok_iff`
    * `LogLine.map_eq_error_iff`
    * `LogLine.mapError_eq_ok_iff`
    * `LogLine.mapError_eq_error_iff`
    * `LogLine.exists_of_mem_mapM`
    * `LogLine.exists_mapM_iff`
    * `LogLine.forM_eq_error_iff`
    * `LogLine.mapM_eq_error_iff`
    * `LogLine.foldlM_eq_error_iff`
-/

------------------------------------------------------------
-- Steps in Sequence
------------------------------------------------------------

namespace LogLine

variable {ε α β : Type}

/- A sequence succeeds if its steps do, one after the other. -/
theorem bind_eq_ok_iff
    (first : Except ε α)
    (second : α → Except ε β)
    (result : β) :
    (first >>= second) = .ok result ↔
      ∃ value, first = .ok value ∧ second value = .ok result := by
  cases first with
  | error fault =>
      constructor
      · intro hFault
        cases hFault
      · rintro ⟨value, hOther, -⟩
        cases hOther
  | ok value =>
      constructor
      · intro hSecond
        exact ⟨value, rfl, hSecond⟩
      · rintro ⟨other, hOther, hSecond⟩
        cases hOther
        exact hSecond

/- A sequence fails as its first step does, or else its second. -/
theorem bind_eq_error_iff
    (first : Except ε α)
    (second : α → Except ε β)
    (fault : ε) :
    (first >>= second) = .error fault ↔
      first = .error fault ∨
        ∃ value,
          first = .ok value ∧ second value = .error fault := by
  cases first with
  | error other =>
      constructor
      · intro hFault
        cases hFault
        exact Or.inl rfl
      · rintro (hFault | ⟨value, hOther, -⟩)
        · cases hFault
          rfl
        · cases hOther
  | ok value =>
      constructor
      · intro hSecond
        exact Or.inr ⟨value, rfl, hSecond⟩
      · rintro (hFault | ⟨other, hOther, hSecond⟩)
        · cases hFault
        · cases hOther
          exact hSecond

theorem toOption_eq_some_iff
    (result : Except ε α)
    (value : α) :
    result.toOption = some value ↔ result = .ok value := by
  cases result with
  | error fault =>
      constructor
      · intro hSome
        cases hSome
      · intro hOk
        cases hOk
  | ok other =>
      constructor
      · intro hSome
        cases hSome
        rfl
      · intro hOk
        cases hOk
        rfl

/- A guard that fails is passed if its condition is false. -/
theorem if_failed_eq_ok_iff
    (faulty : Prop)
    [Decidable faulty]
    {failed rest : Except ε α}
    {result : α}
    (hFailed : failed ≠ .ok result) :
    (if faulty then failed else rest) = .ok result ↔
      ¬ faulty ∧ rest = .ok result := by
  by_cases hFaulty : faulty
  · rw [if_pos hFaulty]
    constructor
    · intro hResult
      exact absurd hResult hFailed
    · intro hNot
      exact absurd hFaulty hNot.1
  · rw [if_neg hFaulty]
    exact ⟨fun hRest => ⟨hFaulty, hRest⟩, fun h => h.2⟩

theorem throw_if_bind_eq_ok_iff
    (faulty : Prop)
    [Decidable faulty]
    (fault : ε)
    (skipped : α → Except ε β)
    (rest : Except ε β)
    (result : β) :
    (if faulty then throw fault >>= skipped else rest) =
        .ok result ↔
      ¬ faulty ∧ rest = .ok result :=
  if_failed_eq_ok_iff faulty (fun hThrow => by cases hThrow)

theorem throw_if_eq_ok_iff
    (faulty : Prop)
    [Decidable faulty]
    (fault : ε) :
    (if faulty then throw fault else pure ()) =
        (.ok () : Except ε Unit) ↔
      ¬ faulty := by
  rw [if_failed_eq_ok_iff faulty (fun hThrow => by cases hThrow)]
  exact ⟨fun h => h.1, fun h => ⟨h, rfl⟩⟩

/- A guard in front of a sequence fails, or what follows does. -/
theorem throw_if_bind_eq_error_iff
    (faulty : Prop)
    [Decidable faulty]
    (fault other : ε)
    (skipped : α → Except ε β)
    (rest : Except ε β) :
    (if faulty then throw fault >>= skipped else rest) =
        .error other ↔
      faulty ∧ other = fault ∨
        ¬ faulty ∧ rest = .error other := by
  by_cases hFaulty : faulty
  · rw [if_pos hFaulty]
    constructor
    · intro hThrow
      cases hThrow
      exact Or.inl ⟨hFaulty, rfl⟩
    · rintro (⟨-, rfl⟩ | ⟨hNot, -⟩)
      · rfl
      · exact absurd hFaulty hNot
  · rw [if_neg hFaulty]
    constructor
    · intro hRest
      exact Or.inr ⟨hFaulty, hRest⟩
    · rintro (⟨hSome, -⟩ | ⟨-, hRest⟩)
      · exact absurd hSome hFaulty
      · exact hRest

theorem throw_if_eq_error_iff
    (faulty : Prop)
    [Decidable faulty]
    (fault other : ε) :
    (if faulty then throw fault else pure ()) =
        (.error other : Except ε Unit) ↔
      faulty ∧ other = fault := by
  have hGuard :=
    throw_if_bind_eq_error_iff faulty fault other
      (fun (_ : Unit) => pure ()) (pure ())
  constructor
  · intro hThrow
    rcases hGuard.mp hThrow with hFaulty | ⟨-, hNever⟩
    · exact hFaulty
    · cases hNever
  · intro hFaulty
    exact hGuard.mpr (Or.inl hFaulty)

/- A check of all elements is passed if each of them passes. -/
theorem forM_eq_ok_iff
    (check : α → Except ε Unit)
    (xs : List α) :
    xs.forM check = .ok () ↔ ∀ x ∈ xs, check x = .ok () := by
  induction xs with
  | nil => exact ⟨fun _ => by simp, fun _ => rfl⟩
  | cons x xs ih =>
      have hCons :
          (x :: xs).forM check =
            (check x >>= fun _ => xs.forM check) :=
        rfl
      rw [hCons, bind_eq_ok_iff, List.forall_mem_cons, ih]
      constructor
      · rintro ⟨value, hFirst, hRest⟩
        exact ⟨hFirst, hRest⟩
      · rintro ⟨hFirst, hRest⟩
        exact ⟨(), hFirst, hRest⟩

theorem map_eq_ok_iff
    (change : α → β)
    (first : Except ε α)
    (result : β) :
    first.map change = .ok result ↔
      ∃ value, first = .ok value ∧ change value = result := by
  cases first with
  | error fault =>
      constructor
      · intro hFault
        cases hFault
      · rintro ⟨value, hOther, -⟩
        cases hOther
  | ok value =>
      constructor
      · intro hSame
        cases hSame
        exact ⟨value, rfl, rfl⟩
      · rintro ⟨other, hOther, rfl⟩
        cases hOther
        rfl

theorem map_eq_error_iff
    (change : α → β)
    (first : Except ε α)
    (fault : ε) :
    first.map change = .error fault ↔ first = .error fault := by
  cases first with
  | error other =>
      constructor
      · intro hSame
        cases hSame
        rfl
      · intro hSame
        cases hSame
        rfl
  | ok value =>
      constructor
      · intro hOk
        cases hOk
      · intro hOk
        cases hOk

theorem mapError_eq_ok_iff
    {δ : Type}
    (result : Except ε α)
    (change : ε → δ)
    (value : α) :
    result.mapError change = .ok value ↔ result = .ok value := by
  cases result with
  | error fault =>
      constructor
      · intro hFault
        cases hFault
      · intro hFault
        cases hFault
  | ok other =>
      constructor
      · intro hSame
        cases hSame
        rfl
      · intro hSame
        cases hSame
        rfl

theorem mapError_eq_error_iff
    {δ : Type}
    (result : Except ε α)
    (change : ε → δ)
    (fault : δ) :
    result.mapError change = .error fault ↔
      ∃ origin, result = .error origin ∧ change origin = fault := by
  cases result with
  | error other =>
      constructor
      · intro hSame
        cases hSame
        exact ⟨other, rfl, rfl⟩
      · rintro ⟨origin, hOrigin, rfl⟩
        cases hOrigin
        rfl
  | ok value =>
      constructor
      · intro hOk
        cases hOk
      · rintro ⟨origin, hOrigin, -⟩
        cases hOrigin

/- What a list is changed into comes from its elements. -/
theorem exists_of_mem_mapM
    {change : α → Except ε β}
    {xs : List α}
    {ys : List β}
    (hMap : xs.mapM change = .ok ys)
    {y : β}
    (hMem : y ∈ ys) :
    ∃ x ∈ xs, change x = .ok y := by
  induction xs generalizing ys with
  | nil =>
      cases hMap
      cases hMem
  | cons x xs ih =>
      rw [List.mapM_cons, bind_eq_ok_iff] at hMap
      rcases hMap with ⟨first, hFirst, hRest⟩
      rw [bind_eq_ok_iff] at hRest
      rcases hRest with ⟨others, hOthers, hCons⟩
      cases hCons
      rcases List.mem_cons.mp hMem with rfl | hLater
      · exact ⟨x, List.mem_cons_self, hFirst⟩
      · rcases ih hOthers hLater with ⟨other, hOther, hChange⟩
        exact ⟨other, List.mem_cons_of_mem x hOther, hChange⟩

/- A list can be changed if each of its elements can. -/
theorem exists_mapM_iff
    (change : α → Except ε β)
    (xs : List α) :
    (∃ ys, xs.mapM change = .ok ys) ↔
      ∀ x ∈ xs, ∃ y, change x = .ok y := by
  induction xs with
  | nil => exact ⟨fun _ => by simp, fun _ => ⟨[], rfl⟩⟩
  | cons x xs ih =>
      rw [List.forall_mem_cons, ← ih]
      simp only [List.mapM_cons, bind_eq_ok_iff]
      constructor
      · rintro ⟨ys, y, hFirst, rest, hRest, -⟩
        exact ⟨⟨y, hFirst⟩, rest, hRest⟩
      · rintro ⟨⟨y, hFirst⟩, rest, hRest⟩
        exact ⟨y :: rest, y, hFirst, rest, hRest, rfl⟩

/-
  The first element of a list that cannot be changed, and why:
  all elements in front of it can be.
-/
def FailsFirst
    (change : α → Except ε β)
    (xs : List α)
    (fault : ε) : Prop :=
  ∃ before x after,
    xs = before ++ x :: after ∧
    (∀ y ∈ before, ∃ changed, change y = .ok changed) ∧
    change x = .error fault

namespace FailsFirst

variable {change : α → Except ε β}
variable {x : α}
variable {xs : List α}
variable {fault : ε}

theorem not_nil :
    ¬ FailsFirst change [] fault := by
  rintro ⟨before, x, after, hSplit, -⟩
  simp at hSplit

theorem cons_iff :
    FailsFirst change (x :: xs) fault ↔
      change x = .error fault ∨
        (∃ changed, change x = .ok changed) ∧
          FailsFirst change xs fault := by
  constructor
  · rintro ⟨before, y, after, hSplit, hBefore, hFault⟩
    cases before with
    | nil =>
        rw [List.nil_append, List.cons.injEq] at hSplit
        rw [hSplit.1]
        exact Or.inl hFault
    | cons first before =>
        rw [List.cons_append, List.cons.injEq] at hSplit
        rcases hSplit with ⟨rfl, rfl⟩
        rw [List.forall_mem_cons] at hBefore
        exact
          Or.inr
            ⟨hBefore.1, before, y, after, rfl, hBefore.2, hFault⟩
  · rintro (hFault | ⟨hFirst, before, y, after, rfl, hBefore,
      hFault⟩)
    · exact ⟨[], x, xs, rfl, List.forall_mem_nil _, hFault⟩
    · refine ⟨x :: before, y, after, rfl, ?_, hFault⟩
      rw [List.forall_mem_cons]
      exact ⟨hFirst, hBefore⟩

theorem exists_mem
    (hFirst : FailsFirst change xs fault) :
    ∃ x ∈ xs, change x = .error fault := by
  rcases hFirst with ⟨before, x, after, rfl, -, hFault⟩
  exact ⟨x, by simp, hFault⟩

end FailsFirst

/- A check of all elements fails at the first one that fails it. -/
theorem forM_eq_error_iff
    (check : α → Except ε Unit)
    (xs : List α)
    (fault : ε) :
    xs.forM check = .error fault ↔
      FailsFirst check xs fault := by
  induction xs with
  | nil =>
      constructor
      · intro hFault
        cases hFault
      · intro hFirst
        exact absurd hFirst FailsFirst.not_nil
  | cons x xs ih =>
      have hCons :
          (x :: xs).forM check =
            (check x >>= fun _ => xs.forM check) :=
        rfl
      rw [hCons, bind_eq_error_iff, FailsFirst.cons_iff, ih]
      simp only [exists_and_right]

/- Changing a list fails at the first element that cannot be. -/
theorem mapM_eq_error_iff
    (change : α → Except ε β)
    (xs : List α)
    (fault : ε) :
    xs.mapM change = .error fault ↔
      FailsFirst change xs fault := by
  induction xs with
  | nil =>
      constructor
      · intro hFault
        cases hFault
      · intro hFirst
        exact absurd hFirst FailsFirst.not_nil
  | cons x xs ih =>
      rw [List.mapM_cons, bind_eq_error_iff, FailsFirst.cons_iff]
      simp only [bind_eq_error_iff, ih]
      constructor
      · rintro (hFirst | ⟨y, hFirst, hLater | ⟨ys, -, hNever⟩⟩)
        · exact Or.inl hFirst
        · exact Or.inr ⟨⟨y, hFirst⟩, hLater⟩
        · cases hNever
      · rintro (hFirst | ⟨⟨y, hFirst⟩, hLater⟩)
        · exact Or.inl hFirst
        · exact Or.inr ⟨y, hFirst, Or.inl hLater⟩

/- A check of all elements fails as one of them does. -/
theorem exists_of_forM_eq_error
    {check : α → Except ε Unit}
    {xs : List α}
    {fault : ε}
    (hFault : xs.forM check = .error fault) :
    ∃ x ∈ xs, check x = .error fault :=
  ((forM_eq_error_iff check xs fault).mp hFault).exists_mem

theorem exists_of_mapM_eq_error
    {change : α → Except ε β}
    {xs : List α}
    {fault : ε}
    (hFault : xs.mapM change = .error fault) :
    ∃ x ∈ xs, change x = .error fault :=
  ((mapM_eq_error_iff change xs fault).mp hFault).exists_mem

/-
  A run over a list fails at an element, from the state that
  the elements in front of it lead to.
-/
theorem foldlM_eq_error_iff
    (step : α → β → Except ε α)
    (start : α)
    (xs : List β)
    (fault : ε) :
    xs.foldlM step start = .error fault ↔
      ∃ before x after state,
        xs = before ++ x :: after ∧
        before.foldlM step start = .ok state ∧
        step state x = .error fault := by
  induction xs generalizing start with
  | nil =>
      constructor
      · intro hFault
        cases hFault
      · rintro ⟨before, x, after, state, hSplit, -, -⟩
        simp at hSplit
  | cons first xs ih =>
      rw [List.foldlM_cons, bind_eq_error_iff]
      constructor
      · rintro (hFirst | ⟨following, hFirst, hRest⟩)
        · exact ⟨[], first, xs, start, rfl, rfl, hFirst⟩
        · rcases (ih following).mp hRest with
            ⟨before, x, after, state, rfl, hRun, hStep⟩
          refine
            ⟨first :: before, x, after, state, rfl, ?_, hStep⟩
          rw [List.foldlM_cons, bind_eq_ok_iff]
          exact ⟨following, hFirst, hRun⟩
      · rintro ⟨before, x, after, state, hSplit, hRun, hStep⟩
        cases before with
        | nil =>
            cases hRun
            rw [List.nil_append, List.cons.injEq] at hSplit
            rw [hSplit.1]
            exact Or.inl hStep
        | cons y before =>
            rw [List.cons_append, List.cons.injEq] at hSplit
            rcases hSplit with ⟨rfl, rfl⟩
            rw [List.foldlM_cons, bind_eq_ok_iff] at hRun
            rcases hRun with ⟨following, hFirst, hRun⟩
            exact
              Or.inr
                ⟨following, hFirst,
                  (ih following).mpr
                    ⟨before, x, after, state, rfl, hRun, hStep⟩⟩

end LogLine
