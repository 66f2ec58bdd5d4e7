import LogLine.Proofs.Template.RoundTrip

/-
  A reader taken step by step.  It gives a finite list of
  items and then nothing any more; a violation is the last of
  them.  Its position is that of the character at fault, and
  the tokens before it are those of the text in front of it.

  Key definitions include:
    * `LogLine.Tokenizer.item`
    * `LogLine.Scan.items`
    * `LogLine.CutAt`
    * `LogLine.OpensField`
    * `LogLine.SyntaxError.StandsIn`

  Key theorems include:
    * `LogLine.Tokenizer.item_eq_items`
    * `LogLine.Tokenizer.exists_place_of_scan`
    * `LogLine.SyntaxError.standsIn_of_next`
    * `LogLine.violations_are_located_and_final`
-/

------------------------------------------------------------
-- Steps of a Reader
------------------------------------------------------------

namespace LogLine

/- What reading gives one by one: tokens, then a violation. -/
def Scan.items
    (read : Scan) :
    List (Except SyntaxError Token) :=
  read.tokens.map .ok ++ (read.violation.map .error).toList

namespace Tokenizer

/- The reader behind a number of steps. -/
def behindSteps
    (tokenizer : Tokenizer) :
    Nat → Tokenizer
  | 0 => tokenizer
  | count + 1 => tokenizer.next.2.behindSteps count

/- What the step behind a number of steps gives. -/
def item
    (tokenizer : Tokenizer)
    (count : Nat) :
    Option (Except SyntaxError Token) :=
  (tokenizer.behindSteps count).next.1

theorem item_succ
    (tokenizer : Tokenizer)
    (count : Nat) :
    tokenizer.item (count + 1) = tokenizer.next.2.item count :=
  rfl

/- Where nothing is left, no step gives anything. -/
theorem item_of_rest_eq_nil
    {tokenizer : Tokenizer}
    (hRest : tokenizer.rest = [])
    (count : Nat) :
    tokenizer.item count = none := by
  have hNext : tokenizer.next = (none, tokenizer) := by
    unfold next
    rw [hRest]
  induction count with
  | zero => exact congrArg Prod.fst hNext
  | succ count ih =>
      rw [item_succ, hNext]
      exact ih

/- Behind a violation nothing is left. -/
theorem rest_eq_nil_of_next_error
    {tokenizer following : Tokenizer}
    {violation : SyntaxError}
    (hNext :
      tokenizer.next = (some (.error violation), following)) :
    following.rest = [] := by
  unfold next at hNext
  simp only at hNext
  split at hNext
  case h_4 =>
      cases hNext
      rfl
  case h_5 =>
      split at hNext
      · cases hNext
        rfl
      · split at hNext
        · cases hNext
          rfl
        · cases hNext
  all_goals cases hNext

/- The steps give the items of the scan, then nothing. -/
theorem item_eq_items
    (tokenizer : Tokenizer)
    (count : Nat) :
    tokenizer.item count = tokenizer.scan.items[count]? := by
  fun_induction scan tokenizer generalizing count with
  | case1 tokenizer following hNext =>
      have hRest : tokenizer.rest = [] := by
        rw [← next_eq_none_iff, hNext]
      rw [item_of_rest_eq_nil hRest]
      rfl
  | case2 tokenizer violation following hNext =>
      cases count with
      | zero => exact congrArg Prod.fst hNext
      | succ count =>
          rw [item_succ, hNext,
            item_of_rest_eq_nil (rest_eq_nil_of_next_error hNext)]
          rfl
  | case3 tokenizer token following hNext remaining ih =>
      cases count with
      | zero => exact congrArg Prod.fst hNext
      | succ count =>
          rw [item_succ, hNext]
          exact ih count

/- There are no more items than characters. -/
theorem length_items_le
    (tokenizer : Tokenizer) :
    tokenizer.scan.items.length ≤ tokenizer.rest.length := by
  fun_induction scan tokenizer with
  | case1 => exact Nat.zero_le _
  | case2 tokenizer violation following hNext =>
      have hShorter := next_shorter hNext
      simp only [Scan.items, List.map_nil, List.nil_append,
        Option.map_some, Option.toList_some, List.length_singleton]
      omega
  | case3 tokenizer token following hNext remaining ih =>
      have hShorter := next_shorter hNext
      have hLength :
          (Scan.mk (token :: remaining.tokens)
            remaining.violation).items.length =
            remaining.items.length + 1 :=
        rfl
      rw [hLength]
      exact Nat.le_trans (Nat.succ_le_succ ih) hShorter

end Tokenizer

namespace Scan

/- A violation is the last item, behind all tokens. -/
theorem getElem?_items_eq_error_iff
    (tokens : List Token)
    (found : Option SyntaxError)
    (count : Nat)
    (violation : SyntaxError) :
    (Scan.mk tokens found).items[count]? =
        some (.error violation) ↔
      count = tokens.length ∧ found = some violation := by
  simp only [items, List.getElem?_append, List.length_map]
  split
  case isTrue hToken =>
      simp only [List.getElem?_map, Option.map_eq_some_iff]
      constructor
      · rintro ⟨token, -, hNever⟩
        cases hNever
      · rintro ⟨rfl, -⟩
        exact absurd hToken (Nat.lt_irrefl _)
  case isFalse hBehind =>
      cases found with
      | none => simp
      | some other =>
          simp only [Option.map_some, Option.toList_some,
            List.getElem?_singleton]
          split
          case isTrue hFirst =>
              simp only [Option.some.injEq,
                Except.error.injEq]
              constructor
              · intro hSame
                exact ⟨by omega, hSame⟩
              · exact And.right
          case isFalse hLater =>
              constructor
              · intro hNever
                cases hNever
              · rintro ⟨rfl, -⟩
                exact absurd (Nat.sub_self _) hLater

/- In front of the violation stand the tokens. -/
theorem getElem?_items_of_lt
    (read : Scan)
    {count : Nat}
    (hToken : count < read.tokens.length) :
    read.items[count]? = read.tokens[count]?.map .ok := by
  rw [items, List.getElem?_append_left (by simpa using hToken),
    List.getElem?_map]

end Scan

end LogLine

------------------------------------------------------------
-- Where a Violation Stands
------------------------------------------------------------

namespace LogLine

/- The text cut in two between characters, at a byte position. -/
def CutAt
    (text : Text)
    (position : Nat)
    (front rest : Text) : Prop :=
  text = front ++ rest ∧ front.byteSize = position

theorem CutAt.position_lt
    {text front rest : Text}
    {position : Nat}
    {c : Char}
    (hCut : CutAt text position front (c :: rest)) :
    position < text.byteSize := by
  rcases hCut with ⟨rfl, rfl⟩
  have hPos := c.utf8Size_pos
  rw [Text.byteSize_append, Text.byteSize_cons]
  omega

/-
  A field stands behind `front` with `body` between its
  braces: one opening brace, and the brace that closes it.
-/
structure OpensField
    (text front body rest : Text) : Prop where
  text_eq : text = front ++ '{' :: (body ++ '}' :: rest)
  opening : body.head? ≠ some '{'
  balanced : BracesBalanced body

/- The name of a field that goes on with a `!` or a `:`. -/
structure NameEnds
    (name : Text) : Prop where
  separators : SeparatorsInIndex name
  closed : ¬ UnclosedIndex name

namespace SyntaxError

/- The byte at which a violation is found. -/
def position : SyntaxError → Nat
  | unmatchedClose position => position
  | unclosedField position => position
  | missingConversion position => position
  | conversionNotLast position => position

/-
  A violation stands at the character it is about.  The
  tokens are those of the text in front of this character, or
  in front of the field that it belongs to.
-/
def StandsIn
    (text : Text)
    (tokens : List Token) :
    SyntaxError → Prop
  | unmatchedClose position =>
      ∃ front rest,
        CutAt text position front ('}' :: rest) ∧
          tokenize front = .ok tokens
  | unclosedField position =>
      ∃ front rest,
        CutAt text position front ('{' :: rest) ∧
          tokenize front = .ok tokens
  | missingConversion position =>
      ∃ front name rest,
        CutAt text position (front ++ '{' :: name)
            ('!' :: '}' :: rest) ∧
          NameEnds name ∧
          OpensField text front (name ++ ['!']) rest ∧
          tokenize front = .ok tokens
  | conversionNotLast position =>
      ∃ front name conversion c spec rest,
        CutAt text position
            (front ++ '{' :: (name ++ ['!', conversion]))
            (c :: (spec ++ '}' :: rest)) ∧
          c ≠ ':' ∧
          NameEnds name ∧
          OpensField text front
            (name ++ '!' :: conversion :: c :: spec) rest ∧
          tokenize front = .ok tokens

theorem position_lt_of_standsIn
    {text : Text}
    {tokens : List Token}
    {violation : SyntaxError}
    (hStands : violation.StandsIn text tokens) :
    violation.position < text.byteSize := by
  cases violation with
  | unmatchedClose position =>
      rcases hStands with ⟨front, rest, hCut, -⟩
      exact hCut.position_lt
  | unclosedField position =>
      rcases hStands with ⟨front, rest, hCut, -⟩
      exact hCut.position_lt
  | missingConversion position =>
      rcases hStands with ⟨front, name, rest, hCut, -⟩
      exact hCut.position_lt
  | conversionNotLast position =>
      rcases hStands with
        ⟨front, name, conversion, c, spec, rest, hCut, -⟩
      exact hCut.position_lt

/- A body that is no field is at fault where its error says. -/
theorem standsIn_of_ofBody
    {front body rest : Text}
    {tokens : List Token}
    {violation : SyntaxError}
    (hRead : tokenize front = .ok tokens)
    (hOpening : body.head? ≠ some '{')
    (hBalanced : BracesBalanced body)
    (hBody :
      Field.ofBody front.byteSize body = .error violation) :
    violation.StandsIn (front ++ '{' :: (body ++ '}' :: rest))
      tokens := by
  have hBrace : Char.utf8Size '{' = 1 := rfl
  have hMark : Char.utf8Size '!' = 1 := rfl
  rcases (Field.ofBody_eq_error_iff _ _ _).mp hBody with
    ⟨name, hSeparators, hClosed, hFault⟩
  have hName : NameEnds name := ⟨hSeparators, hClosed⟩
  rcases hFault with
    ⟨rfl, rfl⟩ | ⟨conversion, c, spec, rfl, hOther, rfl⟩
  · refine
      ⟨front, name, rest, ⟨by simp, ?_⟩, hName,
        ⟨rfl, hOpening, hBalanced⟩, hRead⟩
    rw [Text.byteSize_append, Text.byteSize_cons]
    omega
  · refine
      ⟨front, name, conversion, c, spec, rest,
        ⟨by simp, ?_⟩, hOther, hName,
        ⟨rfl, hOpening, hBalanced⟩, hRead⟩
    simp only [Text.byteSize_append, Text.byteSize_cons,
      Text.byteSize_nil]
    omega

/-
  A violation that a reader meets stands at its place, or in
  the field that begins there.
-/
theorem standsIn_of_next
    {front : Text}
    {tokens : List Token}
    {place following : Tokenizer}
    {violation : SyntaxError}
    (hRead : tokenize front = .ok tokens)
    (hOffset : place.offset = front.byteSize)
    (hNext :
      place.next = (some (.error violation), following)) :
    violation.StandsIn (front ++ place.rest) tokens := by
  rcases place with ⟨offset, rest⟩
  simp only at hOffset
  subst hOffset
  unfold Tokenizer.next at hNext
  simp only at hNext ⊢
  split at hNext
  case h_4 rest hSingle =>
      cases hNext
      exact ⟨front, rest, ⟨rfl, rfl⟩, hRead⟩
  case h_5 rest hSingle =>
      split at hNext
      case h_1 =>
          cases hNext
          exact ⟨front, rest, ⟨rfl, rfl⟩, hRead⟩
      case h_2 body behind hSplit =>
          split at hNext
          case h_1 found hBody =>
              cases hNext
              have hRest := splitBody_eq_some hSplit
              subst hRest
              refine
                standsIn_of_ofBody hRead ?_
                  (braceDepth_of_splitBody hSplit) hBody
              intro hOpen
              rcases List.head?_eq_some_iff.mp hOpen with
                ⟨inner, rfl⟩
              exact hSingle _ rfl
          case h_2 => cases hNext
  all_goals cases hNext

end SyntaxError

end LogLine

------------------------------------------------------------
-- What Is Read before a Violation
------------------------------------------------------------

namespace LogLine

namespace Tokenizer

/-
  A reader that meets a violation meets it at a place, and
  the tokens before it are canonical for the text up to there.
-/
theorem exists_place_of_scan
    {tokenizer : Tokenizer}
    {tokens : List Token}
    {violation : SyntaxError}
    (hScan : tokenizer.scan = ⟨tokens, some violation⟩) :
    ∃ place following : Tokenizer,
      tokenizer.rest = unparse tokens ++ place.rest ∧
      place.offset =
        tokenizer.offset + (unparse tokens).byteSize ∧
      Canonical tokens ∧
      placeTokens tokenizer.offset tokens = tokens ∧
      place.next = (some (.error violation), following) := by
  induction tokens generalizing tokenizer with
  | nil =>
      rw [scan] at hScan
      split at hScan
      case h_1 => cases hScan
      case h_2 found following hNext =>
          cases hScan
          exact
            ⟨tokenizer, following, rfl, rfl,
              ⟨by simp, List.IsChain.nil⟩, rfl, hNext⟩
      case h_3 => cases hScan
  | cons token tokens ih =>
      rcases (scan_eq_cons_iff _ _ _ _).mp hScan with
        ⟨following, hStands, hRest⟩
      rcases ih hRest with
        ⟨place, behind, hText, hOffset, hCanonical, hPlaced,
          hNext⟩
      refine
        ⟨place, behind, ?_, ?_, ?_, ?_, hNext⟩
      · rw [hStands.rest, hText, unparse_cons,
          List.append_assoc]
      · rw [hOffset, hStands.offset, unparse_cons,
          Text.byteSize_append, Nat.add_assoc]
      · rw [canonical_cons_iff]
        refine ⟨hStands.readable, hCanonical, ?_⟩
        intro hIsText second hHead
        cases tokens with
        | nil => cases hHead
        | cons other tokens =>
            rw [List.head?_cons, Option.mem_def,
              Option.some.injEq] at hHead
            subst hHead
            have hStops := hStands.stops hIsText
            rw [hText, unparse_cons, List.append_assoc] at hStops
            exact
              (Token.stopsText_unparse_append_iff
                (hCanonical.readable other
                  List.mem_cons_self) _).mp hStops
      · rw [placeTokens, hStands.placed, ← hStands.offset,
          hPlaced]

end Tokenizer

/- A violation stands behind the tokens of the text before it. -/
theorem standsIn_of_scan
    {template : Text}
    {tokens : List Token}
    {violation : SyntaxError}
    (hScan : scan template = ⟨tokens, some violation⟩) :
    violation.StandsIn template tokens := by
  rcases Tokenizer.exists_place_of_scan hScan with
    ⟨place, following, hText, hOffset, hCanonical, hPlaced,
      hNext⟩
  have hRead : tokenize (unparse tokens) = .ok tokens :=
    (tokenize_eq_ok_iff _ _).mpr ⟨rfl, hCanonical, hPlaced⟩
  have hStart : place.offset = (unparse tokens).byteSize := by
    rw [hOffset]
    exact Nat.zero_add _
  have hTemplate : template = unparse tokens ++ place.rest :=
    hText
  rw [hTemplate]
  exact SyntaxError.standsIn_of_next hRead hStart hNext

end LogLine

------------------------------------------------------------
-- Final Violations
------------------------------------------------------------

namespace LogLine

/-
  Reading a template ends after finitely many items and gives
  nothing any more from then on, also behind a violation, of
  which there is at most one.  The violation stands at its
  position in the template, and the items before it are the
  tokens of the text in front of it.
-/
theorem violations_are_located_and_final
    (template : Text) :
    (∃ count ≤ template.byteSize + 1,
      ∀ n,
        (Tokenizer.start template).item n ≠ none ↔ n < count) ∧
    (∀ m n first second,
      (Tokenizer.start template).item m =
          some (.error first) →
      (Tokenizer.start template).item n =
          some (.error second) →
        m = n) ∧
    (∀ m n,
      m < n →
      ((Tokenizer.start template).item m = none ∨
        ∃ violation,
          (Tokenizer.start template).item m =
            some (.error violation)) →
        (Tokenizer.start template).item n = none) ∧
    ∀ m violation,
      (Tokenizer.start template).item m =
          some (.error violation) →
        violation.position < template.byteSize ∧
        ∃ tokens,
          tokens.length = m ∧
          (∀ n < m,
            (Tokenizer.start template).item n =
              tokens[n]?.map .ok) ∧
          violation.StandsIn template tokens := by
  rcases hScan : scan template with ⟨tokens, found⟩
  have hItem (n : Nat) :
      (Tokenizer.start template).item n =
        (Scan.mk tokens found).items[n]? := by
    rw [Tokenizer.item_eq_items, ← hScan]
    rfl
  have hLength :
      (Scan.mk tokens found).items.length ≤
        template.byteSize := by
    rw [← hScan]
    exact
      Nat.le_trans
        (Tokenizer.length_items_le (Tokenizer.start template))
        (Text.length_le_byteSize template)
  have hSome (n : Nat) :
      (Tokenizer.start template).item n ≠ none ↔
        n < (Scan.mk tokens found).items.length := by
    rw [hItem, ne_eq, List.getElem?_eq_none_iff, Nat.not_le]
  have hEnd :
      (Scan.mk tokens found).items.length ≤ tokens.length + 1 := by
    rw [Scan.items, List.length_append, List.length_map]
    cases found <;> simp
  refine ⟨⟨_, Nat.le_succ_of_le hLength, hSome⟩, ?_, ?_, ?_⟩
  · intro m n first second hFirst hSecond
    rw [hItem, Scan.getElem?_items_eq_error_iff] at hFirst hSecond
    rw [hFirst.1, hSecond.1]
  · intro m n hLater hOver
    by_contra hGiven
    have hInside := (hSome n).mp hGiven
    rcases hOver with hNone | ⟨violation, hViolation⟩
    · exact (hSome m).mpr (Nat.lt_trans hLater hInside) hNone
    · rw [hItem, Scan.getElem?_items_eq_error_iff] at hViolation
      omega
  · intro m violation hViolation
    rw [hItem, Scan.getElem?_items_eq_error_iff] at hViolation
    rcases hViolation with ⟨rfl, rfl⟩
    have hStands := standsIn_of_scan hScan
    refine
      ⟨SyntaxError.position_lt_of_standsIn hStands, tokens, rfl,
        ?_, hStands⟩
    intro n hBefore
    rw [hItem]
    exact Scan.getElem?_items_of_lt ⟨tokens, _⟩ hBefore

/-
  An escaped brace, an index with separators in it, and more
  than one character behind the `!`.
-/
theorem violations_are_located_and_final_of_conversion :
    let template : Text :=
      "é\x7b\x7b\x7bm[!:]!éx\x7d".toList
    (Tokenizer.start template).item 2 =
      some (.error (.conversionNotLast 13)) ∧
    13 < template.byteSize ∧
    (∀ n, 2 < n → (Tokenizer.start template).item n = none) ∧
    ∃ tokens,
      tokens.length = 2 ∧
      (∀ n < 2,
        (Tokenizer.start template).item n =
          tokens[n]?.map .ok) ∧
      (SyntaxError.conversionNotLast 13).StandsIn template
        tokens := by
  intro template
  have hItem :
      (Tokenizer.start template).item 2 =
        some (.error (.conversionNotLast 13)) := by
    decide +kernel
  rcases violations_are_located_and_final template with
    ⟨-, -, hFinal, hLocated⟩
  rcases hLocated 2 _ hItem with ⟨hInside, hTokens⟩
  refine ⟨hItem, hInside, ?_, hTokens⟩
  intro n hLater
  exact hFinal 2 n hLater (Or.inr ⟨_, hItem⟩)

end LogLine
