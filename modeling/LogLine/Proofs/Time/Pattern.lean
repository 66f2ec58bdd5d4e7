import LogLine.Time.Pattern

/-
  Which patterns for times are read, and which ones are
  refused.

  Key definitions include:
    * `LogLine.TimePattern.Directive`
    * `LogLine.TimePattern.Reads`
    * `LogLine.TimePattern.Refused`

  Key theorems include:
    * `LogLine.TimePattern.directive?_eq_some_iff`
    * `LogLine.TimePattern.parse?_eq_some_iff`
    * `LogLine.TimePattern.parse?_eq_none_iff`
-/

------------------------------------------------------------
-- Directives
------------------------------------------------------------

namespace LogLine

namespace TimePattern

/- The marks that change the padding of a number. -/
def padMarks : List (Char × NumberPad) :=
  [('-', .none), ('0', .zero), ('_', .space)]

/- The directives of more than one character and no number. -/
def longDirectives : List (Text × TextItem) :=
  [("#z".toList, .offsetInAnyForm),
   (":::z".toList, .offsetHours),
   ("::z".toList, .offsetWithSeconds),
   (":z".toList, .offsetWithColon),
   (".f".toList, .fraction),
   (".3f".toList, .fractionPlaces true 3),
   (".6f".toList, .fractionPlaces true 6),
   (".9f".toList, .fractionPlaces true 9),
   ("3f".toList, .fractionPlaces false 3),
   ("6f".toList, .fractionPlaces false 6),
   ("9f".toList, .fractionPlaces false 9)]

/-
  What can stand behind a percent sign.  Only a letter for a
  single number takes a mark.
-/
inductive Directive : Text → List TimeItem → Prop where
  | letter
      {c : Char}
      {items : List TimeItem}
      (hLetter : ofLetter? c = some items) :
      Directive [c] items
  | padded
      {mark c : Char}
      {pad own : NumberPad}
      {item : NumberItem}
      (hMark : (mark, pad) ∈ padMarks)
      (hLetter : ofLetter? c = some [.number item own]) :
      Directive [mark, c] [.number item pad]
  | long
      {text : Text}
      {item : TextItem}
      (hLong : (text, item) ∈ longDirectives) :
      Directive text [.part item]

theorem padded?_eq_some_iff
    (pad : NumberPad)
    (letter : Char)
    (items : List TimeItem) :
    padded? pad letter = some items ↔
      ∃ item own,
        ofLetter? letter = some [.number item own] ∧
          items = [.number item pad] := by
  unfold padded?
  split
  case h_1 item own hLetter =>
    simp [hLetter, eq_comm]
  case h_2 hOther =>
    simp only [reduceCtorEq, false_iff]
    rintro ⟨item, own, hLetter, -⟩
    exact hOther item own hLetter

/- A marked letter is a directive with its padding. -/
theorem exists_directive_of_padded?
    {mark c : Char}
    {pad : NumberPad}
    {items : List TimeItem}
    {behind rest : Text}
    (hMark : (mark, pad) ∈ padMarks)
    (hRead :
      (padded? pad c).map (·, behind) = some (items, rest)) :
    ∃ text,
      Directive text items ∧ mark :: c :: behind = text ++ rest := by
  obtain ⟨found, hFound, hPair⟩ := Option.map_eq_some_iff.mp hRead
  obtain ⟨rfl, rfl⟩ := Prod.mk.inj hPair
  obtain ⟨item, own, hLetter, rfl⟩ :=
    (padded?_eq_some_iff pad c found).mp hFound
  exact ⟨[mark, c], .padded hMark hLetter, rfl⟩

/- A long directive found in front of a text. -/
theorem exists_directive_of_long
    (text : Text)
    {item : TextItem}
    {items : List TimeItem}
    {behind rest : Text}
    (hLong : (text, item) ∈ longDirectives)
    (hRead : some ([.part item], behind) = some (items, rest)) :
    ∃ found,
      Directive found items ∧ text ++ behind = found ++ rest := by
  obtain ⟨rfl, rfl⟩ := Prod.mk.inj (Option.some.inj hRead)
  exact ⟨text, .long hLong, rfl⟩

theorem exists_directive_of_directive?
    {text rest : Text}
    {items : List TimeItem}
    (hRead : directive? text = some (items, rest)) :
    ∃ directive,
      Directive directive items ∧ text = directive ++ rest := by
  unfold directive? at hRead
  split at hRead
  case h_1 | h_2 | h_3 =>
    exact exists_directive_of_padded? (by decide) hRead
  case h_15 =>
    obtain ⟨found, hLetter, hPair⟩ :=
      Option.map_eq_some_iff.mp hRead
    obtain ⟨rfl, rfl⟩ := Prod.mk.inj hPair
    exact ⟨[_], .letter hLetter, rfl⟩
  case h_16 => cases hRead
  case h_5 =>
    exact exists_directive_of_long [_, _, _, _] (by decide) hRead
  case h_6 | h_9 | h_10 | h_11 =>
    exact exists_directive_of_long [_, _, _] (by decide) hRead
  all_goals
    exact exists_directive_of_long [_, _] (by decide) hRead

/-
  No letter is the first character of a marked or a long
  directive, so no directive is a beginning of another one.
-/
theorem directive?_of_letter
    {c : Char}
    {items : List TimeItem}
    (hLetter : ofLetter? c = some items)
    (rest : Text) :
    directive? (c :: rest) = some (items, rest) := by
  unfold directive?
  split
  case h_15 hText =>
    cases hText
    rw [hLetter]
    rfl
  case h_16 hText => cases hText
  all_goals
    rename_i hText
    cases hText
    cases hLetter

theorem directive?_append
    {text : Text}
    {items : List TimeItem}
    (hDirective : Directive text items)
    (rest : Text) :
    directive? (text ++ rest) = some (items, rest) := by
  cases hDirective with
  | letter hLetter => exact directive?_of_letter hLetter rest
  | @padded mark c pad own item hMark hLetter =>
      have hPadded : padded? pad c = some [.number item pad] :=
        (padded?_eq_some_iff pad c _).mpr ⟨item, own, hLetter, rfl⟩
      simp only [padMarks, List.mem_cons, Prod.mk.injEq,
        List.not_mem_nil, or_false] at hMark
      rcases hMark with ⟨rfl, rfl⟩ | ⟨rfl, rfl⟩ | ⟨rfl, rfl⟩ <;>
        simp [directive?, hPadded]
  | long hLong =>
      simp only [longDirectives, List.mem_cons, Prod.mk.injEq,
        List.not_mem_nil, or_false] at hLong
      rcases hLong with
        ⟨rfl, rfl⟩ | ⟨rfl, rfl⟩ | ⟨rfl, rfl⟩ | ⟨rfl, rfl⟩ |
        ⟨rfl, rfl⟩ | ⟨rfl, rfl⟩ | ⟨rfl, rfl⟩ | ⟨rfl, rfl⟩ |
        ⟨rfl, rfl⟩ | ⟨rfl, rfl⟩ | ⟨rfl, rfl⟩ <;>
        rfl

theorem directive?_eq_some_iff
    (text rest : Text)
    (items : List TimeItem) :
    directive? text = some (items, rest) ↔
      ∃ directive,
        Directive directive items ∧ text = directive ++ rest := by
  constructor
  · exact exists_directive_of_directive?
  · rintro ⟨directive, hDirective, rfl⟩
    exact directive?_append hDirective rest

theorem directive?_eq_none_iff
    (text : Text) :
    directive? text = none ↔
      ∀ directive items,
        Directive directive items → ¬ directive <+: text := by
  rw [Option.eq_none_iff_forall_ne_some]
  constructor
  · rintro hNone directive items hDirective ⟨rest, rfl⟩
    exact hNone (items, rest) (directive?_append hDirective rest)
  · rintro hNever ⟨items, rest⟩ hRead
    obtain ⟨directive, hDirective, rfl⟩ :=
      (directive?_eq_some_iff text rest items).mp hRead
    exact hNever directive items hDirective ⟨rest, rfl⟩

end TimePattern

end LogLine

------------------------------------------------------------
-- Patterns
------------------------------------------------------------

namespace LogLine

namespace TimePattern

/- Patterns of characters and directives, with their items. -/
inductive Reads : Text → List TimeItem → Prop where
  | nil : Reads [] []
  | char
      {c : Char}
      {rest : Text}
      {items : List TimeItem}
      (hChar : c ≠ '%')
      (hRest : Reads rest items) :
      Reads (c :: rest) (char c :: items)
  | directive
      {text rest : Text}
      {first items : List TimeItem}
      (hFirst : Directive text first)
      (hRest : Reads rest items) :
      Reads ('%' :: (text ++ rest)) (first ++ items)

/- Patterns with a percent sign that no directive follows. -/
def Refused
    (pattern : Text) : Prop :=
  ∃ before items rest,
    Reads before items ∧ pattern = before ++ '%' :: rest ∧
      ∀ directive found,
        Directive directive found → ¬ directive <+: rest

theorem parse?_char
    {c : Char}
    (hChar : c ≠ '%')
    (rest : Text) :
    parse? (c :: rest) = (parse? rest).map (char c :: ·) := by
  rw [parse?]
  exact hChar

theorem parse?_percent_none
    {rest : Text}
    (hNone : directive? rest = none) :
    parse? ('%' :: rest) = none := by
  rw [parse?]
  split
  case h_1 => rfl
  case h_2 hRead =>
    rw [hNone] at hRead
    cases hRead

theorem parse?_directive
    {text : Text}
    {first : List TimeItem}
    (hFirst : Directive text first)
    (rest : Text) :
    parse? ('%' :: (text ++ rest)) =
      (parse? rest).map (first ++ ·) := by
  have hSome := directive?_append hFirst rest
  rw [parse?]
  split
  case h_1 hRead =>
    rw [hSome] at hRead
    cases hRead
  case h_2 hRead =>
    rw [hSome] at hRead
    cases hRead
    rfl

theorem parse?_of_reads
    {pattern : Text}
    {items : List TimeItem}
    (hReads : Reads pattern items) :
    parse? pattern = some items := by
  induction hReads with
  | nil => rw [parse?]
  | char hChar hRest ih =>
      rw [parse?_char hChar, ih]
      rfl
  | directive hFirst hRest ih =>
      rw [parse?_directive hFirst, ih]
      rfl

theorem reads_of_parse?
    {pattern : Text}
    {items : List TimeItem}
    (hParse : parse? pattern = some items) :
    Reads pattern items := by
  fun_induction parse? pattern generalizing items with
  | case1 =>
      cases hParse
      exact .nil
  | case2 rest hRead => cases hParse
  | case3 rest first behind hRead ih =>
      obtain ⟨directive, hFirst, rfl⟩ :=
        (directive?_eq_some_iff _ _ _).mp hRead
      obtain ⟨others, hOthers, rfl⟩ :=
        Option.map_eq_some_iff.mp hParse
      exact .directive hFirst (ih hOthers)
  | case4 c rest hChar ih =>
      obtain ⟨others, hOthers, rfl⟩ :=
        Option.map_eq_some_iff.mp hParse
      exact .char hChar (ih hOthers)

theorem parse?_eq_some_iff
    (pattern : Text)
    (items : List TimeItem) :
    parse? pattern = some items ↔ Reads pattern items :=
  ⟨reads_of_parse?, parse?_of_reads⟩

theorem refused_of_parse?
    {pattern : Text}
    (hParse : parse? pattern = none) :
    Refused pattern := by
  fun_induction parse? pattern with
  | case1 => cases hParse
  | case2 rest hRead =>
      exact
        ⟨[], [], rest, .nil, rfl,
          (directive?_eq_none_iff rest).mp hRead⟩
  | case3 rest first behind hRead ih =>
      obtain ⟨directive, hFirst, rfl⟩ :=
        (directive?_eq_some_iff _ _ _).mp hRead
      obtain ⟨before, items, last, hBefore, rfl, hEnd⟩ :=
        ih (Option.map_eq_none_iff.mp hParse)
      exact
        ⟨'%' :: (directive ++ before), first ++ items, last,
          .directive hFirst hBefore, by simp, hEnd⟩
  | case4 c rest hChar ih =>
      obtain ⟨before, items, last, hBefore, rfl, hEnd⟩ :=
        ih (Option.map_eq_none_iff.mp hParse)
      exact
        ⟨c :: before, char c :: items, last,
          .char hChar hBefore, rfl,
          hEnd⟩

/- What stands in front of the sign does not help. -/
theorem parse?_append_percent
    {before rest : Text}
    {items : List TimeItem}
    (hBefore : Reads before items)
    (hRest : directive? rest = none) :
    parse? (before ++ '%' :: rest) = none := by
  induction hBefore with
  | nil => exact parse?_percent_none hRest
  | char hChar hText ih =>
      rw [List.cons_append, parse?_char hChar, ih]
      rfl
  | directive hFirst hText ih =>
      rw [List.cons_append, List.append_assoc,
        parse?_directive hFirst, ih]
      rfl

theorem parse?_eq_none_iff
    (pattern : Text) :
    parse? pattern = none ↔ Refused pattern := by
  constructor
  · exact refused_of_parse?
  · rintro ⟨before, items, rest, hBefore, rfl, hNever⟩
    exact
      parse?_append_percent hBefore
        ((directive?_eq_none_iff rest).mpr hNever)

end TimePattern

end LogLine
