import LogLine.Template.Tokenizer

/-
  The grammar of a field between its braces, said without
  the reader.

  Key definitions include:
    * `LogLine.UnclosedIndex`
    * `LogLine.SeparatorsInIndex`
    * `LogLine.braceDepth`
    * `LogLine.Field.Readable`

  Key theorems include:
    * `LogLine.splitName_eq_iff`
    * `LogLine.splitBody_append_close`
    * `LogLine.Field.ofBody_eq_ok_iff`
    * `LogLine.Field.ofBody_eq_error_iff`
-/

------------------------------------------------------------
-- Indices in Names
------------------------------------------------------------

namespace LogLine

/- Some `[` of the text has no `]` behind it. -/
def UnclosedIndex : Text → Prop
  | [] => False
  | c :: rest => (c = '[' ∧ ']' ∉ rest) ∨ UnclosedIndex rest

/- A character that ends a name unless it stands in an index. -/
def isSeparator
    (c : Char) :
    Bool :=
  c == '!' || c == ':'

/- Every `!` and every `:` of the text stands in an index. -/
def SeparatorsInIndex
    (text : Text) : Prop :=
  ∀ before c after,
    text = before ++ c :: after →
      isSeparator c = true → UnclosedIndex before

/-
  Whether a reader is in an index behind a text, where
  `inIndex` tells whether it was in front of the text.
-/
def InIndexBehind
    (inIndex : Bool)
    (text : Text) : Prop :=
  (inIndex = true ∧ ']' ∉ text) ∨ UnclosedIndex text

instance decidableUnclosedIndex :
    DecidablePred UnclosedIndex
  | [] => isFalse id
  | c :: rest =>
      have := decidableUnclosedIndex rest
      inferInstanceAs
        (Decidable ((c = '[' ∧ ']' ∉ rest) ∨ UnclosedIndex rest))

@[simp]
theorem not_unclosedIndex_nil :
    ¬ UnclosedIndex [] :=
  id

theorem unclosedIndex_cons
    (c : Char)
    (rest : Text) :
    UnclosedIndex (c :: rest) ↔
      (c = '[' ∧ ']' ∉ rest) ∨ UnclosedIndex rest :=
  Iff.rfl

@[simp]
theorem inIndexBehind_nil
    (inIndex : Bool) :
    InIndexBehind inIndex [] ↔ inIndex = true := by
  simp [InIndexBehind]

/- One character moves the reader in or out of an index. -/
theorem inIndexBehind_cons
    (inIndex : Bool)
    (c : Char)
    (rest : Text) :
    InIndexBehind inIndex (c :: rest) ↔
      InIndexBehind
        (if inIndex then c != ']' else c == '[') rest := by
  unfold InIndexBehind
  rw [unclosedIndex_cons]
  cases inIndex with
  | false => simp
  | true =>
      by_cases hClose : c = ']'
      · subst hClose
        simp
      · have hOther : ']' ≠ c := Ne.symm hClose
        simp only [List.mem_cons, hOther, false_or, if_true,
          bne_iff_ne, ne_eq, hClose, not_false_eq_true, true_and]
        constructor
        · rintro (h | ⟨_, h⟩ | h)
          · exact Or.inl h
          · exact Or.inl h
          · exact Or.inr h
        · rintro (h | h)
          · exact Or.inl h
          · exact Or.inr (Or.inr h)

/- A text that ends a name, or no text at all. -/
def StartsAtSeparator
    (text : Text) : Prop :=
  ∃ c rest, text = c :: rest ∧ isSeparator c = true

/-
  Every separator of the text stands in an index, also in
  one that was open in front of the text.
-/
def SeparatorsWithin
    (inIndex : Bool)
    (text : Text) : Prop :=
  ∀ before c after,
    text = before ++ c :: after →
      isSeparator c = true → InIndexBehind inIndex before

theorem separatorsWithin_false_iff
    (text : Text) :
    SeparatorsWithin false text ↔ SeparatorsInIndex text := by
  simp [SeparatorsWithin, SeparatorsInIndex, InIndexBehind]

@[simp]
theorem separatorsWithin_nil
    (inIndex : Bool) :
    SeparatorsWithin inIndex [] := by
  intro before c after hAppend
  simp at hAppend

theorem separatorsWithin_cons
    (inIndex : Bool)
    (c : Char)
    (rest : Text) :
    SeparatorsWithin inIndex (c :: rest) ↔
      (isSeparator c = true → inIndex = true) ∧
        SeparatorsWithin
          (if inIndex then c != ']' else c == '[') rest := by
  constructor
  · intro hWithin
    refine ⟨?_, ?_⟩
    · intro hSeparator
      have hFirst := hWithin [] c rest rfl hSeparator
      simpa using hFirst
    · intro before d after hRest hSeparator
      rw [← inIndexBehind_cons]
      exact hWithin (c :: before) d after (by rw [hRest]; rfl)
        hSeparator
  · rintro ⟨hFirst, hLater⟩ before d after hAppend hSeparator
    cases before with
    | nil =>
        simp only [List.nil_append, List.cons.injEq] at hAppend
        rw [inIndexBehind_nil]
        exact hFirst (by rw [hAppend.1]; exact hSeparator)
    | cons b before =>
        simp only [List.cons_append, List.cons.injEq] at hAppend
        rw [← hAppend.1, inIndexBehind_cons]
        exact hLater before d after hAppend.2 hSeparator

end LogLine

------------------------------------------------------------
-- Splitting Off the Name
------------------------------------------------------------

namespace LogLine

theorem splitName_cons
    (inIndex : Bool)
    (c : Char)
    (rest : Text) :
    splitName inIndex (c :: rest) =
      if inIndex = false ∧ isSeparator c = true then
        ([], c :: rest)
      else
        let split :=
          splitName
            (if inIndex then c != ']' else c == '[') rest
        (c :: split.1, split.2) := by
  rw [splitName]
  cases inIndex with
  | false => simp [isSeparator]
  | true => simp

/-
  The name ends at the first separator that stands in no
  index, or at the end of the body.
-/
theorem splitName_eq_iff
    (inIndex : Bool)
    (body name tail : Text) :
    splitName inIndex body = (name, tail) ↔
      body = name ++ tail ∧
      SeparatorsWithin inIndex name ∧
      (tail = [] ∨
        ¬ InIndexBehind inIndex name ∧
          StartsAtSeparator tail) := by
  induction body generalizing inIndex name with
  | nil =>
      rw [splitName]
      constructor
      · intro hSplit
        simp only [Prod.mk.injEq] at hSplit
        rcases hSplit with ⟨rfl, rfl⟩
        simp
      · rintro ⟨hAppend, -, -⟩
        rcases List.append_eq_nil_iff.mp hAppend.symm with
          ⟨rfl, rfl⟩
        rfl
  | cons c rest ih =>
      rw [splitName_cons]
      by_cases hEnd : inIndex = false ∧ isSeparator c = true
      · rw [if_pos hEnd]
        constructor
        · intro hSplit
          simp only [Prod.mk.injEq] at hSplit
          rcases hSplit with ⟨rfl, rfl⟩
          refine ⟨rfl, separatorsWithin_nil inIndex, Or.inr ?_⟩
          refine ⟨?_, c, rest, rfl, hEnd.2⟩
          simp [hEnd.1]
        · rintro ⟨hAppend, hWithin, -⟩
          cases name with
          | nil => simpa using hAppend
          | cons d name =>
              simp only [List.cons_append, List.cons.injEq]
                at hAppend
              rw [separatorsWithin_cons, ← hAppend.1] at hWithin
              have hInIndex := hWithin.1 hEnd.2
              rw [hEnd.1] at hInIndex
              exact absurd hInIndex (by decide)
      · rw [if_neg hEnd]
        cases name with
        | nil =>
            constructor
            · intro hSplit
              simp at hSplit
            · rintro ⟨hAppend, -, hTail⟩
              rw [List.nil_append] at hAppend
              rcases hTail with hNil | ⟨hOutside, hStart⟩
              · rw [hNil] at hAppend
                simp at hAppend
              · rcases hStart with ⟨d, later, hTail, hSeparator⟩
                rw [hTail, List.cons.injEq] at hAppend
                rw [inIndexBehind_nil, Bool.not_eq_true]
                  at hOutside
                exact absurd
                  ⟨hOutside, by rw [hAppend.1]; exact hSeparator⟩
                  hEnd
        | cons d name =>
            have hSeparator :
                isSeparator c = true → inIndex = true := by
              intro hSeparator
              cases inIndex with
              | true => rfl
              | false => exact absurd ⟨rfl, hSeparator⟩ hEnd
            rw [List.cons_append, List.cons.injEq]
            constructor
            · intro hSplit
              simp only [Prod.mk.injEq, List.cons.injEq]
                at hSplit
              rcases hSplit with ⟨⟨rfl, hName⟩, hTail⟩
              rw [separatorsWithin_cons, inIndexBehind_cons]
              rcases (ih _ name).mp (Prod.ext hName hTail) with
                ⟨hRest, hWithin, hBehind⟩
              exact ⟨⟨rfl, hRest⟩, ⟨hSeparator, hWithin⟩,
                hBehind⟩
            · rintro ⟨⟨rfl, hRest⟩, hWithin, hBehind⟩
              rw [separatorsWithin_cons] at hWithin
              rw [inIndexBehind_cons] at hBehind
              have hSplit :=
                (ih _ name).mpr ⟨hRest, hWithin.2, hBehind⟩
              simp only [hSplit]

/- A whole text is a name if its separators stand in indices. -/
theorem separatorsInIndex_iff
    (text : Text) :
    SeparatorsInIndex text ↔
      splitName false text = (text, []) := by
  rw [splitName_eq_iff, separatorsWithin_false_iff]
  simp

instance :
    DecidablePred SeparatorsInIndex :=
  fun text => decidable_of_iff _ (separatorsInIndex_iff text).symm

end LogLine

------------------------------------------------------------
-- Balanced Braces
------------------------------------------------------------

namespace LogLine

/-
  The braces that are open behind a text, where `depth` are
  open in front of it; no number if one closes that is not
  open.
-/
def braceDepth
    (depth : Nat) :
    Text → Option Nat
  | [] => some depth
  | '{' :: rest => braceDepth (depth + 1) rest
  | '}' :: rest =>
      match depth with
      | 0 => none
      | depth + 1 => braceDepth depth rest
  | _ :: rest => braceDepth depth rest

/- Every brace of the text is opened, then closed. -/
def BracesBalanced
    (text : Text) : Prop :=
  braceDepth 0 text = some 0

instance :
    DecidablePred BracesBalanced :=
  fun text =>
    inferInstanceAs (Decidable (braceDepth 0 text = some 0))

theorem braceDepth_cons_of_not_isBrace
    {c : Char}
    (hPlain : isBrace c = false)
    (depth : Nat)
    (rest : Text) :
    braceDepth depth (c :: rest) = braceDepth depth rest := by
  simp only [isBrace, Bool.or_eq_false_iff,
    beq_eq_false_iff_ne, ne_eq] at hPlain
  rw [braceDepth]
  · exact hPlain.1
  · exact hPlain.2

theorem braceDepth_append
    (depth : Nat)
    (first second : Text) :
    braceDepth depth (first ++ second) =
      (braceDepth depth first).bind
        (fun between => braceDepth between second) := by
  fun_induction braceDepth depth first with
  | case1 depth => rfl
  | case2 depth rest ih => exact ih
  | case3 rest => rfl
  | case4 depth rest ih => exact ih
  | case5 depth c rest hOpen hClose ih =>
      rw [List.cons_append, braceDepth]
      · exact ih
      · exact hOpen
      · exact hClose

/- Text without braces opens and closes none. -/
theorem braceDepth_of_plain
    {text : Text}
    (hPlain : ∀ c ∈ text, isBrace c = false)
    (depth : Nat) :
    braceDepth depth text = some depth := by
  induction text with
  | nil => rfl
  | cons c rest ih =>
      rw [braceDepth_cons_of_not_isBrace
        (hPlain c List.mem_cons_self)]
      exact ih fun d hMem =>
        hPlain d (List.mem_cons_of_mem c hMem)

/- More braces that are open in front stay open behind. -/
theorem braceDepth_add
    {depth behind : Nat}
    {text : Text}
    (hDepth : braceDepth depth text = some behind)
    (more : Nat) :
    braceDepth (depth + more) text = some (behind + more) := by
  fun_induction braceDepth depth text with
  | case1 depth =>
      cases hDepth
      rfl
  | case2 depth rest ih =>
      rw [braceDepth, Nat.add_right_comm]
      exact ih hDepth
  | case3 rest => cases hDepth
  | case4 rest depth ih =>
      rw [Nat.succ_add, braceDepth]
      exact ih hDepth
  | case5 depth c rest hOpen hClose ih =>
      rw [braceDepth]
      · exact ih hDepth
      · exact hOpen
      · exact hClose

/- Balanced text in front of a closing brace is the body. -/
theorem splitBody_append_close
    {depth : Nat}
    {body : Text}
    (hDepth : braceDepth depth body = some 0)
    (rest : Text) :
    splitBody depth (body ++ '}' :: rest) =
      some (body, rest) := by
  fun_induction braceDepth depth body with
  | case1 depth =>
      rw [Option.some.injEq] at hDepth
      subst hDepth
      rfl
  | case2 depth body ih =>
      rw [List.cons_append, splitBody, ih hDepth]
      rfl
  | case3 body => simp at hDepth
  | case4 depth body ih =>
      rw [List.cons_append, splitBody, ih hDepth]
      rfl
  | case5 depth c body hOpen hClose ih =>
      rw [List.cons_append, splitBody, ih hDepth]
      · rfl
      · exact hOpen
      · exact hClose

/- What is split off as a body closes what it opens. -/
theorem braceDepth_of_splitBody
    {depth : Nat}
    {text body after : Text}
    (hSplit : splitBody depth text = some (body, after)) :
    braceDepth depth body = some 0 := by
  fun_induction splitBody depth text
    generalizing body after with
  | case1 => simp at hSplit
  | case2 depth rest ih =>
      rcases Option.map_eq_some_iff.mp hSplit with
        ⟨⟨inner, tail⟩, hInner, hEq⟩
      simp only [Prod.mk.injEq] at hEq
      rw [← hEq.1, braceDepth]
      exact ih hInner
  | case3 rest =>
      simp only [Option.some.injEq, Prod.mk.injEq] at hSplit
      rw [← hSplit.1]
      rfl
  | case4 depth rest ih =>
      rcases Option.map_eq_some_iff.mp hSplit with
        ⟨⟨inner, tail⟩, hInner, hEq⟩
      simp only [Prod.mk.injEq] at hEq
      rw [← hEq.1, braceDepth]
      exact ih hInner
  | case5 depth c rest hOpen hClose ih =>
      rcases Option.map_eq_some_iff.mp hSplit with
        ⟨⟨inner, tail⟩, hInner, hEq⟩
      simp only [Prod.mk.injEq] at hEq
      rw [← hEq.1, braceDepth]
      · exact ih hInner
      · exact hOpen
      · exact hClose

end LogLine

------------------------------------------------------------
-- Readable Fields
------------------------------------------------------------

namespace LogLine

namespace Field

/- What stands between the braces of a field. -/
def body
    (field : Field) :
    Text :=
  field.name ++ writeTail field.conversion field.spec

/-
  A field that reads back from its text.  Its braces balance,
  it does not begin like an escaped brace, and its name ends
  where its conversion or its spec begins.
-/
structure Readable
    (field : Field) : Prop where
  balanced : BracesBalanced field.body
  opening : field.body.head? ≠ some '{'
  separators : SeparatorsInIndex field.name
  closed :
    field.conversion.isSome ∨ field.spec.isSome →
      ¬ UnclosedIndex field.name

theorem readable_iff
    (field : Field) :
    field.Readable ↔
      BracesBalanced field.body ∧
      field.body.head? ≠ some '{' ∧
      SeparatorsInIndex field.name ∧
      (field.conversion.isSome ∨ field.spec.isSome →
        ¬ UnclosedIndex field.name) := by
  constructor
  · rintro ⟨hBalanced, hOpening, hSeparators, hClosed⟩
    exact ⟨hBalanced, hOpening, hSeparators, hClosed⟩
  · rintro ⟨hBalanced, hOpening, hSeparators, hClosed⟩
    exact ⟨hBalanced, hOpening, hSeparators, hClosed⟩

instance :
    DecidablePred Readable :=
  fun field => decidable_of_iff _ field.readable_iff.symm

theorem write_eq_body
    (field : Field) :
    write field.name field.conversion field.spec =
      '{' :: (field.body ++ ['}']) :=
  rfl

/- Behind a name stands nothing, or a separator. -/
theorem writeTail_cases
    (conversion : Option Char)
    (spec : Option Text) :
    writeTail conversion spec = [] ∨
      (conversion.isSome ∨ spec.isSome) ∧
        StartsAtSeparator (writeTail conversion spec) := by
  cases conversion with
  | some c =>
      exact Or.inr ⟨Or.inl rfl, '!', _, rfl, rfl⟩
  | none =>
      cases spec with
      | some text =>
          exact Or.inr ⟨Or.inr rfl, ':', text, rfl, rfl⟩
      | none => exact Or.inl rfl

/- The name of a readable field is split off from its body. -/
theorem splitName_body
    {field : Field}
    (hSeparators : SeparatorsInIndex field.name)
    (hClosed :
      field.conversion.isSome ∨ field.spec.isSome →
        ¬ UnclosedIndex field.name) :
    splitName false field.body =
      (field.name,
        writeTail field.conversion field.spec) := by
  rw [splitName_eq_iff, separatorsWithin_false_iff]
  refine ⟨rfl, hSeparators, ?_⟩
  rcases writeTail_cases field.conversion field.spec with
    hNil | ⟨hPresent, hStart⟩
  · exact Or.inl hNil
  · refine Or.inr ⟨?_, hStart⟩
    simpa [InIndexBehind] using hClosed hPresent

/- A field is read from exactly the bodies that it writes. -/
theorem ofBody_eq_ok_iff
    (offset : Nat)
    (body : Text)
    (field : Field) :
    ofBody offset body = .ok field ↔
      field.body = body ∧ field.offset = offset ∧
      SeparatorsInIndex field.name ∧
      (field.conversion.isSome ∨ field.spec.isSome →
        ¬ UnclosedIndex field.name) := by
  constructor
  · intro hRead
    rcases hSplit : splitName false body with ⟨name, tail⟩
    rcases (splitName_eq_iff false body name tail).mp hSplit
      with ⟨rfl, hWithin, hTail⟩
    rw [separatorsWithin_false_iff] at hWithin
    have hClosed : tail ≠ [] → ¬ UnclosedIndex name := by
      intro hPresent
      rcases hTail with hNil | ⟨hOutside, -⟩
      · exact absurd hNil hPresent
      · simpa [InIndexBehind] using hOutside
    unfold ofBody at hRead
    rw [hSplit] at hRead
    simp only at hRead
    split at hRead
    case h_1 =>
        rw [Except.ok.injEq] at hRead
        subst hRead
        exact ⟨rfl, rfl, hWithin, by simp⟩
    case h_2 => simp at hRead
    case h_3 c =>
        rw [Except.ok.injEq] at hRead
        subst hRead
        exact ⟨rfl, rfl, hWithin, fun _ => hClosed (by simp)⟩
    case h_4 c spec =>
        rw [Except.ok.injEq] at hRead
        subst hRead
        exact ⟨rfl, rfl, hWithin, fun _ => hClosed (by simp)⟩
    case h_5 => simp at hRead
    case h_6 d spec hAlone hBare hSpec hLonger =>
        rw [Except.ok.injEq] at hRead
        subst hRead
        have hMark : d ≠ '!' := by
          intro hMark
          match spec with
          | [] => exact hAlone hMark rfl
          | [c] => exact hBare c hMark rfl
          | c :: e :: rest => exact hLonger c e rest hMark rfl
        have hColon : d = ':' := by
          rcases hTail with hNil | ⟨-, e, rest, hStart, hSep⟩
          · simp at hNil
          · rw [List.cons.injEq] at hStart
            rw [← hStart.1] at hSep
            simpa [isSeparator, hMark] using hSep
        subst hColon
        exact ⟨rfl, rfl, hWithin, fun _ => hClosed (by simp)⟩
  · rintro ⟨rfl, rfl, hSeparators, hClosed⟩
    rcases field with ⟨name, conversion, spec, offset⟩
    unfold ofBody
    rw [splitName_body hSeparators hClosed]
    cases conversion <;> cases spec <;> rfl

/-
  A body is no field if its name ends at a `!` with nothing
  behind it, or with something else than a spec behind the
  conversion.
-/
theorem ofBody_eq_error_iff
    (offset : Nat)
    (body : Text)
    (violation : SyntaxError) :
    ofBody offset body = .error violation ↔
      ∃ name,
        SeparatorsInIndex name ∧ ¬ UnclosedIndex name ∧
        ((body = name ++ ['!'] ∧
          violation =
            .missingConversion (offset + 1 + name.byteSize)) ∨
        ∃ c d rest,
          body = name ++ '!' :: c :: d :: rest ∧ d ≠ ':' ∧
          violation =
            .conversionNotLast
              (offset + 1 + name.byteSize + 1 + c.utf8Size)) := by
  constructor
  · intro hRead
    rcases hSplit : splitName false body with ⟨name, tail⟩
    rcases (splitName_eq_iff false body name tail).mp hSplit
      with ⟨rfl, hWithin, hTail⟩
    rw [separatorsWithin_false_iff] at hWithin
    unfold ofBody at hRead
    rw [hSplit] at hRead
    have hClosed : tail ≠ [] → ¬ UnclosedIndex name := by
      intro hPresent
      rcases hTail with hNil | ⟨hOutside, -⟩
      · exact absurd hNil hPresent
      · simpa [InIndexBehind] using hOutside
    simp only at hRead
    split at hRead
    case h_2 =>
        cases hRead
        exact
          ⟨name, hWithin, hClosed (by simp), Or.inl ⟨rfl, rfl⟩⟩
    case h_5 c d rest hNoSpec =>
        cases hRead
        exact
          ⟨name, hWithin, hClosed (by simp),
            Or.inr ⟨c, d, rest, rfl, hNoSpec, rfl⟩⟩
    all_goals cases hRead
  · rintro ⟨name, hSeparators, hClosed, hBody⟩
    have hSplit (behind : Text) :
        splitName false (name ++ '!' :: behind) =
          (name, '!' :: behind) := by
      rw [splitName_eq_iff, separatorsWithin_false_iff]
      refine ⟨rfl, hSeparators, Or.inr ⟨?_, '!', behind, rfl, rfl⟩⟩
      simpa [InIndexBehind] using hClosed
    unfold ofBody
    rcases hBody with
      ⟨rfl, rfl⟩ | ⟨c, d, rest, rfl, hOther, rfl⟩
    · rw [hSplit]
      rfl
    · rw [hSplit]
      simp

end Field

end LogLine
