import LogLine.Format.Grouping
import LogLine.Proofs.Format.SpecGrammar
import Mathlib.Data.List.Basic
import Mathlib.Data.List.TakeWhile

/-
  Digits with separators between groups, cut from the right,
  and numbers in which only the leading digits get them.

  Key definitions include:
    * `LogLine.DigitGroups`
    * `LogLine.DigitGroups.text`
    * `LogLine.LeadingDigits`
    * `LogLine.CutByThree`

  Key theorems include:
    * `LogLine.exists_digitGroups`
    * `LogLine.filter_groupDigits`
    * `LogLine.DigitGroups.separator_inside`
    * `LogLine.separators_apart`
    * `LogLine.LeadingDigits.groupWhole_eq`
    * `LogLine.grouping_spares_the_rest`
-/

------------------------------------------------------------
-- Groups of Digits
------------------------------------------------------------

namespace LogLine

/-
  Digits cut from the right: all groups but the first have
  `size` digits, and the first has what is left.
-/
structure DigitGroups
    (size : Nat) where
  first : Text
  rest : List Text
  first_ne_nil : first ≠ []
  first_le : first.length ≤ size
  rest_length : ∀ group ∈ rest, group.length = size

namespace DigitGroups

variable {size : Nat}

/- The digits of all groups. -/
def digits
    (groups : DigitGroups size) :
    Text :=
  groups.first ++ groups.rest.flatten

/- The groups with a separator between neighbours. -/
def text
    (separator : Char)
    (groups : DigitGroups size) :
    Text :=
  groups.first ++ groups.rest.flatMap (separator :: ·)

theorem size_pos
    (groups : DigitGroups size) :
    0 < size :=
  Nat.lt_of_lt_of_le
    (List.length_pos_of_ne_nil groups.first_ne_nil)
    groups.first_le

theorem length_digits
    (groups : DigitGroups size) :
    groups.digits.length =
      groups.first.length + size * groups.rest.length := by
  have hFlatten :
      ∀ rest : List Text,
        (∀ group ∈ rest, group.length = size) →
          rest.flatten.length = size * rest.length := by
    intro rest hRest
    induction rest with
    | nil => rfl
    | cons group rest ih =>
        rw [List.forall_mem_cons] at hRest
        rw [List.flatten_cons, List.length_append, hRest.1,
          ih hRest.2, List.length_cons, Nat.mul_succ]
        omega
  rw [digits, List.length_append,
    hFlatten groups.rest groups.rest_length]

/- The first group is full exactly if nothing is left over. -/
theorem length_digits_mod_eq_zero_iff
    (groups : DigitGroups size) :
    groups.digits.length % size = 0 ↔
      groups.first.length = size := by
  have hPos := List.length_pos_of_ne_nil groups.first_ne_nil
  rw [length_digits, Nat.add_mul_mod_self_left]
  constructor
  · intro hMod
    apply Nat.le_antisymm groups.first_le
    exact Nat.le_of_dvd hPos (Nat.dvd_of_mod_eq_zero hMod)
  · intro hFull
    rw [hFull, Nat.mod_self]

/- One digit by itself. -/
def single
    (hSize : 0 < size)
    (d : Char) :
    DigitGroups size where
  first := [d]
  rest := []
  first_ne_nil := List.cons_ne_nil d []
  first_le := hSize
  rest_length := List.forall_mem_nil _

/- One more digit in a group of its own, behind a full one. -/
def openGroup
    (groups : DigitGroups size)
    (hFull : groups.first.length = size)
    (d : Char) :
    DigitGroups size where
  first := [d]
  rest := groups.first :: groups.rest
  first_ne_nil := List.cons_ne_nil d []
  first_le := groups.size_pos
  rest_length :=
    List.forall_mem_cons.mpr ⟨hFull, groups.rest_length⟩

/- One more digit in the first group, which has room for it. -/
def extend
    (groups : DigitGroups size)
    (hRoom : groups.first.length ≠ size)
    (d : Char) :
    DigitGroups size where
  first := d :: groups.first
  rest := groups.rest
  first_ne_nil := List.cons_ne_nil d _
  first_le := Nat.lt_of_le_of_ne groups.first_le hRoom
  rest_length := groups.rest_length

end DigitGroups

/- Grouping cuts digits from the right; induction goes from there. -/
theorem exists_digitGroups
    (separator : Char)
    {size : Nat}
    (hSize : 0 < size)
    {digits : Text}
    (hSome : digits ≠ []) :
    ∃ groups : DigitGroups size,
      groups.digits = digits ∧
        groupDigits separator size digits =
          groups.text separator := by
  fun_induction groupDigits separator size digits with
  | case1 => exact absurd rfl hSome
  | case2 d =>
      refine ⟨.single hSize d, rfl, ?_⟩
      rfl
  | case3 d e rest hFull ih =>
      rcases ih (List.cons_ne_nil e rest) with
        ⟨groups, hDigits, hText⟩
      rw [← hDigits] at hFull
      have hFirst := groups.length_digits_mod_eq_zero_iff.mp hFull
      refine ⟨groups.openGroup hFirst d, ?_, ?_⟩
      · rw [← hDigits]
        rfl
      · rw [hText]
        rfl
  | case4 d e rest hRoom ih =>
      rcases ih (List.cons_ne_nil e rest) with
        ⟨groups, hDigits, hText⟩
      rw [← hDigits] at hRoom
      have hFirst :=
        mt groups.length_digits_mod_eq_zero_iff.mpr hRoom
      refine ⟨groups.extend hFirst d, ?_, ?_⟩
      · rw [← hDigits]
        rfl
      · rw [hText]
        rfl

/- Without the separators the digits are what they were. -/
theorem filter_groupDigits
    {separator : Char}
    {keep : Char → Bool}
    (hSeparator : keep separator = false)
    (size : Nat)
    (digits : Text) :
    (groupDigits separator size digits).filter keep =
      digits.filter keep := by
  fun_induction groupDigits separator size digits with
  | case1 => rfl
  | case2 d => rfl
  | case3 d e rest hFull ih =>
      rw [List.filter_cons, List.filter_cons_of_neg
        (by simp [hSeparator]), ih, List.filter_cons (x := d)]
  | case4 d e rest hRoom ih =>
      rw [List.filter_cons, ih, List.filter_cons (x := d)]

end LogLine

------------------------------------------------------------
-- Where Separators Stand
------------------------------------------------------------

namespace LogLine

namespace DigitGroups

variable {size : Nat}

theorem getLast?_append_flatMap
    {holds : Char → Prop}
    (separator : Char)
    {first : Text}
    {rest : List Text}
    (hFirst : ∀ c ∈ first.getLast?, holds c)
    (hRest :
      ∀ group ∈ rest, group ≠ [] ∧ ∀ c ∈ group, holds c) :
    ∀ c ∈ (first ++ rest.flatMap (separator :: ·)).getLast?,
      holds c := by
  induction rest generalizing first with
  | nil =>
      rw [List.flatMap_nil, List.append_nil]
      exact hFirst
  | cons group rest ih =>
      rw [List.forall_mem_cons] at hRest
      rw [List.flatMap_cons, ← List.append_assoc]
      refine ih ?_ hRest.2
      intro c hLast
      rw [List.getLast?_append_of_ne_nil _ (List.cons_ne_nil _ _),
        List.getLast?_cons_of_ne_nil hRest.1.1] at hLast
      exact hRest.1.2 c (List.mem_of_getLast? hLast)

/- Separators stand between digits, neither first nor last. -/
theorem separator_inside
    (groups : DigitGroups size)
    {separator : Char}
    (hOther : separator ∉ groups.digits) :
    (groups.text separator).head? ≠ some separator ∧
      (groups.text separator).getLast? ≠ some separator := by
  have hFirst : ∀ c ∈ groups.first, c ≠ separator := by
    rintro c hMem rfl
    exact hOther (List.mem_append_left _ hMem)
  have hRest :
      ∀ group ∈ groups.rest,
        group ≠ [] ∧ ∀ c ∈ group, c ≠ separator := by
    intro group hGroup
    refine ⟨?_, ?_⟩
    · rintro rfl
      have hLength := groups.rest_length [] hGroup
      rw [List.length_nil] at hLength
      exact Nat.ne_of_gt groups.size_pos hLength.symm
    · rintro c hMem rfl
      apply hOther
      apply List.mem_append_right
      exact List.mem_flatten_of_mem hGroup hMem
  refine ⟨?_, ?_⟩
  · intro hHead
    rw [text, List.head?_append_of_ne_nil _ groups.first_ne_nil]
      at hHead
    exact hFirst separator (List.mem_of_head? hHead) rfl
  · intro hLast
    refine getLast?_append_flatMap separator ?_ hRest separator
      hLast rfl
    intro c hMem
    exact hFirst c (List.mem_of_getLast? hMem)

end DigitGroups

/- No separator stands in front of the first digit. -/
theorem head?_groupDigits
    (separator : Char)
    (size : Nat)
    (digits : Text) :
    (groupDigits separator size digits).head? = digits.head? := by
  unfold groupDigits
  split
  · rfl
  · rfl
  · split
    · rfl
    · rfl

/- Behind a separator stands a digit. -/
theorem separators_apart
    {separator : Char}
    {size : Nat}
    {digits : Text}
    (hOther : separator ∉ digits) :
    ¬ [separator, separator] <:+:
      groupDigits separator size digits := by
  fun_induction groupDigits separator size digits with
  | case1 =>
      intro hInfix
      cases List.infix_nil.mp hInfix
  | case2 d =>
      intro hInfix
      have hLength := hInfix.length_le
      simp at hLength
  | case3 d e rest hFull ih =>
      rw [List.mem_cons, not_or] at hOther
      have hHead := head?_groupDigits separator size (e :: rest)
      intro hInfix
      rcases List.infix_cons_iff.mp hInfix with hFront | hLater
      · exact hOther.1 (List.cons_prefix_cons.mp hFront).1
      · rcases List.infix_cons_iff.mp hLater with hFront | hLast
        · rcases (List.cons_prefix_cons.mp hFront).2 with
            ⟨after, hAfter⟩
          rw [← hAfter] at hHead
          cases hHead
          exact hOther.2 List.mem_cons_self
        · exact ih hOther.2 hLast
  | case4 d e rest hRoom ih =>
      rw [List.mem_cons, not_or] at hOther
      intro hInfix
      rcases List.infix_cons_iff.mp hInfix with hFront | hLater
      · exact hOther.1 (List.cons_prefix_cons.mp hFront).1
      · exact ih hOther.2 hLater

end LogLine

------------------------------------------------------------
-- Leading Digits
------------------------------------------------------------

namespace LogLine

/-
  The longest run of digits that a number begins with, which
  may be empty, and what follows it.
-/
structure LeadingDigits
    (number digits rest : Text) : Prop where
  number_eq : number = digits ++ rest
  isDigit : ∀ c ∈ digits, c.isDigit = true
  stops : ¬ Text.StartsIn Char.isDigit rest

theorem leadingDigits_takeWhile
    (number : Text) :
    LeadingDigits number (number.takeWhile Char.isDigit)
      (number.dropWhile Char.isDigit) where
  number_eq := List.takeWhile_append_dropWhile.symm
  isDigit := fun _ hMem => List.mem_takeWhile_imp hMem
  stops := Text.not_startsIn_dropWhile number

/-
  Digits with separators that cut them by three from the
  right, so that only the first group can be shorter.
-/
structure CutByThree
    (separator : Char)
    (digits text : Text) : Prop where
  kept : text.filter (· != separator) = digits
  groups :
    digits ≠ [] →
      ∃ groups : DigitGroups 3,
        groups.digits = digits ∧ groups.text separator = text
  not_first : text.head? ≠ some separator
  not_last : text.getLast? ≠ some separator
  apart : ¬ [separator, separator] <:+: text

theorem cutByThree_groupDigits
    {separator : Char}
    {digits : Text}
    (hOther : separator ∉ digits) :
    CutByThree separator digits
      (groupDigits separator 3 digits) := by
  have hGroups :
      digits ≠ [] →
        ∃ groups : DigitGroups 3,
          groups.digits = digits ∧
            groups.text separator =
              groupDigits separator 3 digits := by
    intro hSome
    rcases exists_digitGroups separator (Nat.succ_pos 2) hSome with
      ⟨groups, hDigits, hText⟩
    exact ⟨groups, hDigits, hText.symm⟩
  have hInside :
      (groupDigits separator 3 digits).head? ≠ some separator ∧
        (groupDigits separator 3 digits).getLast? ≠
          some separator := by
    by_cases hNone : digits = []
    · rw [hNone, groupDigits]
      exact ⟨nofun, nofun⟩
    · rcases hGroups hNone with ⟨groups, hDigits, hText⟩
      rw [← hText]
      rw [← hDigits] at hOther
      exact groups.separator_inside hOther
  constructor
  case kept =>
      rw [filter_groupDigits (by simp), List.filter_eq_self]
      intro c hMem
      rw [bne_iff_ne]
      rintro rfl
      exact hOther hMem
  case groups => exact hGroups
  case not_first => exact hInside.1
  case not_last => exact hInside.2
  case apart => exact separators_apart hOther

namespace LeadingDigits

variable {number digits rest : Text}

theorem groupWhole_eq
    (hLeading : LeadingDigits number digits rest)
    (separator : Char) :
    groupWhole separator number =
      groupDigits separator 3 digits ++ rest := by
  rcases
    Text.takeWhile_append_of_not_startsIn hLeading.isDigit
      hLeading.stops with
    ⟨hDigits, hRest⟩
  rw [groupWhole, hLeading.number_eq, hDigits, hRest]

end LeadingDigits

/-
  Every number begins with a longest run of digits.  These get
  the separators, and what follows them stays as it is: a
  fraction, an exponent, a percent sign, or a text that begins
  with no digit at all.
-/
theorem grouping_spares_the_rest
    {separator : Char}
    (hSeparator : separator.isDigit = false)
    (number : Text) :
    (∃ digits rest, LeadingDigits number digits rest) ∧
    ∀ digits rest,
      LeadingDigits number digits rest →
        (∃ whole,
          groupWhole separator number = whole ++ rest ∧
            CutByThree separator digits whole) ∧
        (digits = [] → groupWhole separator number = number) := by
  refine ⟨⟨_, _, leadingDigits_takeWhile number⟩, ?_⟩
  intro digits rest hLeading
  have hOther : separator ∉ digits := by
    intro hMem
    rw [hLeading.isDigit separator hMem] at hSeparator
    cases hSeparator
  refine ⟨⟨_, hLeading.groupWhole_eq separator, ?_⟩, ?_⟩
  · exact cutByThree_groupDigits hOther
  · intro hNone
    rw [hLeading.groupWhole_eq separator, hLeading.number_eq,
      hNone, groupDigits]

theorem grouping_spares_the_rest_of_exponent :
    ','.isDigit = false ∧
      LeadingDigits "1234567.8e+05%".toList "1234567".toList
        ".8e+05%".toList ∧
      groupWhole ',' "1234567.8e+05%".toList =
        "1,234,567".toList ++ ".8e+05%".toList ∧
      CutByThree ',' "1234567".toList "1,234,567".toList := by
  have hComma : ','.isDigit = false := by decide
  have hLeading :
      LeadingDigits "1234567.8e+05%".toList "1234567".toList
        ".8e+05%".toList :=
    ⟨by decide, by decide, by decide⟩
  have hText :
      groupWhole ',' "1234567.8e+05%".toList =
        "1,234,567".toList ++ ".8e+05%".toList := by
    decide
  rcases (grouping_spares_the_rest hComma _).2 _ _ hLeading with
    ⟨⟨whole, hWhole, hCut⟩, -⟩
  have hSame : whole = "1,234,567".toList :=
    List.append_cancel_right (hWhole.symm.trans hText)
  rw [hSame] at hCut
  exact ⟨hComma, hLeading, hText, hCut⟩

end LogLine
