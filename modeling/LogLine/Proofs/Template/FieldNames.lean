import LogLine.Template.NamePattern
import LogLine.Proofs.Template.Renaming

/-
  The pattern of names, and what a name that matches it looks
  like.

  Key definitions include:
    * `LogLine.NamePart`
    * `LogLine.NamePath`
    * `LogLine.NamePath.Fits`
    * `LogLine.PathState.Completes`

  Key theorems include:
    * `LogLine.PathState.completes_cons_iff`
    * `LogLine.PathState.accepts_iff_completes`
    * `LogLine.isFieldName_iff`
    * `LogLine.plainName_of_isFieldName`
-/

------------------------------------------------------------
-- The Pattern
------------------------------------------------------------

namespace LogLine

/- One character or more, all of a class. -/
structure IsRun
    (inClass : Char → Bool)
    (text : Text) : Prop where
  ne_nil : text ≠ []
  inClass : ∀ c ∈ text, inClass c = true

/- What can follow the first word of a name. -/
inductive NamePart where
  | member (word : Text)
  | index (key : Text)
deriving DecidableEq, Repr

namespace NamePart

def text : NamePart → Text
  | member word => '.' :: word
  | index key => '[' :: (key ++ [']'])

/- An index can be anything without a closing bracket. -/
inductive Fits : NamePart → Prop where
  | member
      {word : Text}
      (hWord : IsRun isWordChar word) :
      Fits (.member word)
  | index
      {key : Text}
      (hKey : IsRun (· != ']') key) :
      Fits (.index key)

end NamePart

/- A name by its first word and its other parts. -/
structure NamePath where
  root : Text
  parts : List NamePart
deriving DecidableEq, Repr

namespace NamePath

def text
    (path : NamePath) :
    Text :=
  path.root ++ path.parts.flatMap NamePart.text

/-
  The parts are a match of the pattern, part by part:

    (digit+ | word+) ("." word+ | "[" inside+ "]")*
-/
structure Fits
    (path : NamePath) : Prop where
  root :
    IsRun isDecimalDigit path.root ∨ IsRun isWordChar path.root
  parts : ∀ part ∈ path.parts, part.Fits

end NamePath

end LogLine

------------------------------------------------------------
-- Word Characters
------------------------------------------------------------

namespace LogLine

/- Whether each of some ranges lies within one of some others. -/
def rangesWithin
    (inner outer : List (Nat × Nat)) :
    Bool :=
  inner.all fun (first, last) =>
    outer.any fun (low, high) =>
      Nat.ble low first && Nat.ble last high

theorem inRanges_of_rangesWithin
    {inner outer : List (Nat × Nat)}
    (hWithin : rangesWithin inner outer = true)
    {c : Char}
    (hInner : inRanges inner c = true) :
    inRanges outer c = true := by
  unfold inRanges at hInner ⊢
  rw [List.any_eq_true] at hInner ⊢
  rcases hInner with ⟨range, hMem, hBounds⟩
  have hWide := List.all_eq_true.mp hWithin range hMem
  rw [List.any_eq_true] at hWide
  rcases hWide with ⟨wide, hWideMem, hWideBounds⟩
  simp only [Bool.and_eq_true, decide_eq_true_eq] at hBounds
  simp only [Bool.and_eq_true, Nat.ble_eq] at hWideBounds
  refine ⟨wide, hWideMem, ?_⟩
  simp only [Bool.and_eq_true, decide_eq_true_eq]
  omega

/- What stands between words is no part of one. -/
theorem isWordChar_eq_false :
    ∀ c ∈ ['.', '[', '\x7b', '\x7d'],
      isWordChar c = false := by
  decide +kernel

theorem isWordChar_of_isDecimalDigit
    {c : Char}
    (hDigit : isDecimalDigit c = true) :
    isWordChar c = true := by
  have hRanges :
      rangesWithin decimalDigitRanges wordCharRanges = true := by
    decide +kernel
  exact inRanges_of_rangesWithin hRanges hDigit

/- So a number is a word, and nothing more is allowed by it. -/
theorem NamePath.Fits.isRun_root
    {path : NamePath}
    (hFits : path.Fits) :
    IsRun isWordChar path.root := by
  rcases hFits.root with hNumber | hWord
  · exact
      ⟨hNumber.ne_nil, fun c hMem =>
        isWordChar_of_isDecimalDigit (hNumber.inClass c hMem)⟩
  · exact hWord

end LogLine

------------------------------------------------------------
-- Paths Character by Character
------------------------------------------------------------

namespace LogLine

/- A text that begins with any number of characters of a class. -/
def BehindAny
    (inClass : Char → Bool)
    (follows : Text → Prop)
    (text : Text) : Prop :=
  ∃ run rest,
    (∀ c ∈ run, inClass c = true) ∧
      follows rest ∧ text = run ++ rest

/- A text that begins with one of them at least. -/
def BehindRun
    (inClass : Char → Bool)
    (follows : Text → Prop)
    (text : Text) : Prop :=
  ∃ run rest,
    IsRun inClass run ∧ follows rest ∧ text = run ++ rest

variable {inClass : Char → Bool}
variable {follows : Text → Prop}

theorem behindAny_nil_iff :
    BehindAny inClass follows [] ↔ follows [] := by
  constructor
  · rintro ⟨run, rest, -, hRest, hText⟩
    rw [(List.append_eq_nil_iff.mp hText.symm).2] at hRest
    exact hRest
  · exact fun hRest => ⟨[], [], by simp, hRest, rfl⟩

theorem behindAny_cons_iff
    (c : Char)
    (text : Text) :
    BehindAny inClass follows (c :: text) ↔
      (inClass c = true ∧ BehindAny inClass follows text) ∨
        follows (c :: text) := by
  constructor
  · rintro ⟨run, rest, hRun, hRest, hText⟩
    cases run with
    | nil =>
        rw [List.nil_append] at hText
        exact Or.inr (hText ▸ hRest)
    | cons d run =>
        rw [List.cons_append, List.cons.injEq] at hText
        rcases hText with ⟨rfl, rfl⟩
        rcases List.forall_mem_cons.mp hRun with ⟨hChar, hMore⟩
        exact Or.inl ⟨hChar, run, rest, hMore, hRest, rfl⟩
  · rintro (⟨hChar, run, rest, hRun, hRest, rfl⟩ | hRest)
    · exact
        ⟨c :: run, rest,
          List.forall_mem_cons.mpr ⟨hChar, hRun⟩, hRest, rfl⟩
    · exact ⟨[], c :: text, by simp, hRest, rfl⟩

theorem not_behindRun_nil :
    ¬ BehindRun inClass follows [] := by
  rintro ⟨run, rest, hRun, -, hText⟩
  exact hRun.ne_nil (List.append_eq_nil_iff.mp hText.symm).1

theorem behindRun_cons_iff
    (c : Char)
    (text : Text) :
    BehindRun inClass follows (c :: text) ↔
      inClass c = true ∧ BehindAny inClass follows text := by
  constructor
  · rintro ⟨run, rest, hRun, hRest, hText⟩
    cases run with
    | nil => exact absurd rfl hRun.ne_nil
    | cons d run =>
        rw [List.cons_append, List.cons.injEq] at hText
        rcases hText with ⟨rfl, rfl⟩
        rcases List.forall_mem_cons.mp hRun.inClass with
          ⟨hChar, hMore⟩
        exact ⟨hChar, run, rest, hMore, hRest, rfl⟩
  · rintro ⟨hChar, run, rest, hRun, hRest, rfl⟩
    exact
      ⟨c :: run, rest,
        ⟨List.cons_ne_nil c run,
          List.forall_mem_cons.mpr ⟨hChar, hRun⟩⟩,
        hRest, rfl⟩

/- Any number of parts. -/
def NameTail
    (text : Text) : Prop :=
  ∃ parts : List NamePart,
    (∀ part ∈ parts, part.Fits) ∧
      text = parts.flatMap NamePart.text

/- The end of an index, and any number of parts. -/
def ClosingTail
    (text : Text) : Prop :=
  ∃ tail, NameTail tail ∧ text = ']' :: tail

namespace PathState

/- What a path goes on with up to its end. -/
def Completes : PathState → Text → Prop
  | wordStart => BehindRun isWordChar NameTail
  | word => BehindAny isWordChar NameTail
  | indexStart => BehindRun (· != ']') ClosingTail
  | index => BehindAny (· != ']') ClosingTail
  | indexEnd => NameTail

end PathState

theorem nameTail_nil :
    NameTail [] :=
  ⟨[], by simp, rfl⟩

/- A part begins as the state behind its first character says. -/
theorem nameTail_cons_iff
    (c : Char)
    (text : Text) :
    NameTail (c :: text) ↔
      ∃ state,
        PathState.afterPart c = some state ∧
          state.Completes text := by
  constructor
  · rintro ⟨parts, hParts, hText⟩
    cases parts with
    | nil => cases hText
    | cons part parts =>
        rcases List.forall_mem_cons.mp hParts with ⟨hPart, hMore⟩
        rw [List.flatMap_cons] at hText
        cases hPart with
        | @member word hWord =>
            rw [NamePart.text, List.cons_append,
              List.cons.injEq] at hText
            rcases hText with ⟨rfl, rfl⟩
            exact
              ⟨.wordStart, rfl, word, _, hWord,
                ⟨parts, hMore, rfl⟩, rfl⟩
        | @index key hKey =>
            rw [NamePart.text, List.cons_append, List.append_assoc,
              List.cons.injEq] at hText
            rcases hText with ⟨rfl, rfl⟩
            exact
              ⟨.indexStart, rfl, key, _, hKey,
                ⟨_, ⟨parts, hMore, rfl⟩, rfl⟩, rfl⟩
  · rintro ⟨state, hAfter, hText⟩
    unfold PathState.afterPart at hAfter
    split at hAfter
    case isTrue hPoint =>
        cases hAfter
        rcases hText with
          ⟨word, _, hWord, ⟨parts, hParts, rfl⟩, rfl⟩
        refine ⟨.member word :: parts, ?_, ?_⟩
        · exact List.forall_mem_cons.mpr ⟨.member hWord, hParts⟩
        · rw [hPoint]
          rfl
    case isFalse =>
        split at hAfter
        case isTrue hOpen =>
            cases hAfter
            rcases hText with
              ⟨key, _, hKey, ⟨_, ⟨parts, hParts, rfl⟩, rfl⟩, rfl⟩
            refine ⟨.index key :: parts, ?_, ?_⟩
            · exact List.forall_mem_cons.mpr ⟨.index hKey, hParts⟩
            · rw [hOpen, List.flatMap_cons, NamePart.text,
                List.cons_append, List.append_assoc]
              rfl
        case isFalse => cases hAfter

theorem closingTail_cons_iff
    (c : Char)
    (text : Text) :
    ClosingTail (c :: text) ↔ c = ']' ∧ NameTail text := by
  constructor
  · rintro ⟨tail, hTail, hText⟩
    rw [List.cons.injEq] at hText
    rcases hText with ⟨rfl, rfl⟩
    exact ⟨rfl, hTail⟩
  · rintro ⟨rfl, hTail⟩
    exact ⟨text, hTail, rfl⟩

namespace PathState

theorem completes_nil_iff
    (state : PathState) :
    state.Completes [] ↔ state.accepting = true := by
  have hOpen : ¬ ClosingTail [] := by
    rintro ⟨tail, -, hText⟩
    cases hText
  cases state with
  | wordStart => exact iff_of_false not_behindRun_nil (by decide)
  | word => exact iff_of_true (behindAny_nil_iff.mpr nameTail_nil) rfl
  | indexStart => exact iff_of_false not_behindRun_nil (by decide)
  | index =>
      exact iff_of_false (mt behindAny_nil_iff.mp hOpen) (by decide)
  | indexEnd => exact iff_of_true nameTail_nil rfl

/- No part of a path begins like a word. -/
theorem afterPart_of_isWordChar
    {c : Char}
    (hChar : isWordChar c = true) :
    afterPart c = none := by
  have hOther :
      ∀ d, isWordChar d = false → c ≠ d := by
    rintro d hNone rfl
    rw [hNone] at hChar
    cases hChar
  rw [afterPart,
    if_neg (hOther '.' (isWordChar_eq_false _ (by decide))),
    if_neg (hOther '[' (isWordChar_eq_false _ (by decide)))]

/- One step of the reader is one character of the pattern. -/
theorem completes_cons_iff
    (state : PathState)
    (c : Char)
    (text : Text) :
    state.Completes (c :: text) ↔
      ∃ following,
        state.step c = some following ∧
          following.Completes text := by
  cases state with
  | wordStart =>
      rw [Completes, behindRun_cons_iff, step]
      by_cases hChar : isWordChar c = true
      · simp [hChar, Completes]
      · simp [hChar]
  | word =>
      rw [Completes, behindAny_cons_iff, nameTail_cons_iff, step]
      by_cases hChar : isWordChar c = true
      · simp [hChar, Completes, afterPart_of_isWordChar hChar]
      · simp [hChar]
  | indexStart =>
      rw [Completes, behindRun_cons_iff, step]
      by_cases hClose : c = ']'
      · simp [hClose]
      · simp [hClose, Completes]
  | index =>
      rw [Completes, behindAny_cons_iff, closingTail_cons_iff, step]
      by_cases hClose : c = ']'
      · simp [hClose, Completes]
      · simp [hClose, Completes]
  | indexEnd => exact nameTail_cons_iff c text

/-
  By induction on the text, from any state: the reader accepts
  just what completes the pattern.
-/
theorem accepts_iff_completes
    (state : PathState)
    (text : Text) :
    (∃ final,
      text.foldlM step state = some final ∧
        final.accepting = true) ↔
      state.Completes text := by
  induction text generalizing state with
  | nil =>
      rw [completes_nil_iff]
      simp [pure]
  | cons c rest ih =>
      rw [completes_cons_iff]
      simp only [← ih, List.foldlM_cons, Option.bind_eq_bind,
        Option.bind_eq_some_iff]
      constructor
      · rintro ⟨final, ⟨following, hStep, hRest⟩, hEnd⟩
        exact ⟨following, hStep, final, hRest, hEnd⟩
      · rintro ⟨following, hStep, final, hRest, hEnd⟩
        exact ⟨final, ⟨following, hStep, hRest⟩, hEnd⟩

end PathState

/- A name passes the check just if it matches the pattern. -/
theorem isFieldName_iff
    (name : Text) :
    isFieldName name = true ↔
      ∃ path : NamePath, path.Fits ∧ path.text = name := by
  have hAccepts :
      isFieldName name = true ↔
        PathState.wordStart.Completes name := by
    rw [← PathState.accepts_iff_completes, isFieldName]
    cases name.foldlM PathState.step .wordStart with
    | none => simp
    | some final => simp
  rw [hAccepts]
  constructor
  · rintro ⟨root, _, hRoot, ⟨parts, hParts, rfl⟩, rfl⟩
    exact ⟨⟨root, parts⟩, ⟨Or.inr hRoot, hParts⟩, rfl⟩
  · rintro ⟨path, hFits, rfl⟩
    exact
      ⟨path.root, _, hFits.isRun_root,
        ⟨path.parts, hFits.parts, rfl⟩, rfl⟩

example : isFieldName "request.headers[x-id]".toList = true := by
  decide +kernel

end LogLine

------------------------------------------------------------
-- Names That Match
------------------------------------------------------------

namespace LogLine

/- An unclosed index has been opened. -/
theorem not_unclosedIndex_of_not_mem
    {text : Text}
    (hNone : '[' ∉ text) :
    ¬ UnclosedIndex text := by
  induction text with
  | nil => exact not_unclosedIndex_nil
  | cons c rest ih =>
      rw [List.mem_cons, not_or] at hNone
      rw [unclosedIndex_cons, not_or]
      exact ⟨fun hOpen => hNone.1 hOpen.1.symm, ih hNone.2⟩

namespace IsRun

variable {word : Text}

theorem not_mem
    (hWord : IsRun isWordChar word)
    {c : Char}
    (hOther : isWordChar c = false) :
    c ∉ word := by
  intro hMem
  rw [hWord.inClass c hMem] at hOther
  cases hOther

theorem not_unclosedIndex
    (hWord : IsRun isWordChar word) :
    ¬ UnclosedIndex word :=
  not_unclosedIndex_of_not_mem
    (hWord.not_mem (isWordChar_eq_false '[' (by decide)))

theorem isBrace_eq_false
    (hWord : IsRun isWordChar word) :
    ∀ c ∈ word, isBrace c = false := by
  intro c hMem
  rw [isBrace, Bool.or_eq_false_iff, beq_eq_false_iff_ne,
    beq_eq_false_iff_ne]
  constructor
  · rintro rfl
    exact
      hWord.not_mem (isWordChar_eq_false _ (by decide)) hMem
  · rintro rfl
    exact
      hWord.not_mem (isWordChar_eq_false _ (by decide)) hMem

end IsRun

namespace NamePart.Fits

variable {part : NamePart}

theorem not_unclosedIndex
    (hFits : part.Fits) :
    ¬ UnclosedIndex part.text := by
  cases hFits with
  | @member word hWord =>
      rw [text, unclosedIndex_cons, not_or]
      exact ⟨fun hOpen => absurd hOpen.1 (by decide),
        hWord.not_unclosedIndex⟩
  | @index key hKey =>
      rw [text, unclosedIndex_cons, unclosedIndex_append]
      simp [unclosedIndex_cons]

/- Braces can only be inside of an index. -/
theorem onlyInIndex
    (hFits : part.Fits) :
    OnlyInIndex isBrace part.text := by
  cases hFits with
  | @member word hWord =>
      refine OnlyInIndex.of_forall ?_
      rw [text, List.forall_mem_cons]
      exact ⟨by decide, hWord.isBrace_eq_false⟩
  | @index key hKey =>
      intro before c after hText hBrace
      cases before with
      | nil =>
          rw [text, List.nil_append, List.cons.injEq] at hText
          rw [← hText.1] at hBrace
          revert hBrace
          decide
      | cons d before =>
          rw [text, List.cons_append, List.cons.injEq] at hText
          rcases hText with ⟨rfl, hRest⟩
          refine Or.inl ⟨rfl, ?_⟩
          have hKeyOpen : ']' ∉ key := fun hMem =>
            absurd (hKey.inClass ']' hMem) (by decide)
          rcases List.append_eq_append_iff.mp hRest with
            ⟨middle, hBefore, hTail⟩ | ⟨middle, hSplit, -⟩
          · cases middle with
            | nil =>
                rw [List.append_nil] at hBefore
                rw [hBefore]
                exact hKeyOpen
            | cons e middle => simp at hTail
          · rw [hSplit] at hKeyOpen
            exact fun hMem =>
              hKeyOpen (List.mem_append_left middle hMem)

theorem getLast?_text
    (hFits : part.Fits) :
    ∀ c ∈ part.text.getLast?, isWordChar c = true ∨ c = ']' := by
  cases hFits with
  | @member word hWord =>
      rw [text, List.getLast?_cons_of_ne_nil hWord.ne_nil]
      exact fun c hLast =>
        Or.inl (hWord.inClass c (List.mem_of_getLast? hLast))
  | @index key hKey =>
      rw [text, ← List.cons_append, List.getLast?_concat]
      simp

end NamePart.Fits

namespace NamePath.Fits

variable {path : NamePath}

/- What goes from parts to their sequence goes to the name. -/
theorem of_append
    (hFits : path.Fits)
    (holds : Text → Prop)
    (hNil : holds [])
    (hAppend :
      ∀ first second,
        holds first → holds second → holds (first ++ second))
    (hWord : ∀ word, IsRun isWordChar word → holds word)
    (hPart : ∀ part : NamePart, part.Fits → holds part.text) :
    holds path.text := by
  rcases path with ⟨root, parts⟩
  refine hAppend _ _ (hWord root hFits.isRun_root) ?_
  have hParts := hFits.parts
  simp only at hParts ⊢
  clear hFits
  induction parts with
  | nil => exact hNil
  | cons part parts ih =>
      rcases List.forall_mem_cons.mp hParts with ⟨hFirst, hMore⟩
      exact hAppend _ _ (hPart part hFirst) (ih hMore)

theorem not_unclosedIndex
    (hFits : path.Fits) :
    ¬ UnclosedIndex path.text := by
  refine
    hFits.of_append (¬ UnclosedIndex ·) not_unclosedIndex_nil ?_
      (fun word => IsRun.not_unclosedIndex)
      (fun part => NamePart.Fits.not_unclosedIndex)
  intro first second hFirst hSecond
  rw [unclosedIndex_append, not_or]
  exact ⟨fun hOpen => hFirst hOpen.1, hSecond⟩

theorem onlyInIndex
    (hFits : path.Fits) :
    OnlyInIndex isBrace path.text :=
  hFits.of_append (OnlyInIndex isBrace)
    (OnlyInIndex.of_forall (by simp))
    (fun _ _ hFirst hSecond => hFirst.append hSecond)
    (fun _ hWord => OnlyInIndex.of_forall hWord.isBrace_eq_false)
    (fun _ hPart => hPart.onlyInIndex)

/- A name ends in a word character or a bracket. -/
theorem getLast?_text
    (hFits : path.Fits) :
    ∀ c ∈ path.text.getLast?, isWordChar c = true ∨ c = ']' := by
  refine
    hFits.of_append
      (fun text =>
        ∀ c ∈ text.getLast?, isWordChar c = true ∨ c = ']')
      (by simp) ?_ ?_ (fun part => NamePart.Fits.getLast?_text)
  · intro first second hFirst hSecond c hLast
    rw [List.getLast?_append, Option.mem_def,
      Option.or_eq_some_iff] at hLast
    rcases hLast with hLast | ⟨-, hLast⟩
    · exact hSecond c hLast
    · exact hFirst c hLast
  · intro word hWord c hLast
    exact Or.inl (hWord.inClass c (List.mem_of_getLast? hLast))

end NamePath.Fits

variable {name : Text}

theorem not_unclosedIndex_of_isFieldName
    (hName : isFieldName name = true) :
    ¬ UnclosedIndex name := by
  rcases (isFieldName_iff name).mp hName with ⟨path, hFits, rfl⟩
  exact hFits.not_unclosedIndex

/- A checked name has braces in its indices only. -/
theorem onlyInIndex_of_isFieldName
    (hName : isFieldName name = true) :
    OnlyInIndex isBrace name := by
  rcases (isFieldName_iff name).mp hName with ⟨path, hFits, rfl⟩
  exact hFits.onlyInIndex

/- No marker ends as a checked name does. -/
theorem isMarker_of_isFieldName
    (hName : isFieldName name = true) :
    isMarker name = false := by
  rcases (isFieldName_iff name).mp hName with ⟨path, hFits, rfl⟩
  have hLast := hFits.getLast?_text
  have hOther :
      ∀ mark ∈ [enterSuffix, exitSuffix],
        path.text.endsIn mark = false := by
    intro mark hMark
    have hNoWord :
        isWordChar mark = false ∧ mark ≠ ']' := by
      revert mark
      decide +kernel
    rw [Text.endsIn, beq_eq_false_iff_ne]
    intro hEnd
    rcases hLast mark hEnd with hWord | hClose
    · rw [hNoWord.1] at hWord
      cases hWord
    · exact hNoWord.2 hClose
  rw [isMarker, hOther enterSuffix (by simp),
    hOther exitSuffix (by simp)]
  rfl

theorem plainName_of_isFieldName
    (hName : isFieldName name = true)
    (hUnbraced : ∀ c ∈ name, isBrace c = false) :
    PlainName name :=
  ⟨hUnbraced, not_unclosedIndex_of_isFieldName hName,
    isMarker_of_isFieldName hName⟩

end LogLine
