import LogLine.Proofs.Template.RoundTrip

/-
  Reading two templates one behind the other.  Where the
  tokens of the first one end, the reader goes on as if the
  second one stood alone, and counts its bytes from further
  on.  Text that meets at the seam becomes one piece.

  Key definitions include:
    * `LogLine.Scan.shifted`
    * `LogLine.Scan.behind`

  Key theorems include:
    * `LogLine.Tokenizer.scan_shifted`
    * `LogLine.Tokenizer.scan_unparse_append`
    * `LogLine.scan_append`
-/

------------------------------------------------------------
-- Counting from Further On
------------------------------------------------------------

namespace LogLine

namespace Field

/- The field with `shift` more bytes in front of it. -/
def shifted
    (shift : Nat)
    (field : Field) :
    Field :=
  { field with offset := field.offset + shift }

@[simp]
theorem name_shifted
    (shift : Nat)
    (field : Field) :
    (field.shifted shift).name = field.name :=
  rfl

@[simp]
theorem writeRenamed_shifted
    (shift : Nat)
    (field : Field)
    (name : Text) :
    (field.shifted shift).writeRenamed name =
      field.writeRenamed name :=
  rfl

@[simp]
theorem display_shifted
    (shift : Nat)
    (field : Field) :
    (field.shifted shift).display = field.display :=
  rfl

/- The bytes in front of a field are all that it counts. -/
theorem ofBody_add
    (offset shift : Nat)
    (body : Text) :
    ofBody (offset + shift) body =
      ((ofBody offset body).map (shifted shift)).mapError
        (SyntaxError.shifted shift) := by
  unfold ofBody
  rcases splitName false body with ⟨name, tail⟩
  simp only
  split <;>
    simp only [Except.map, Except.mapError, shifted,
      SyntaxError.shifted, Except.error.injEq,
      SyntaxError.missingConversion.injEq,
      SyntaxError.conversionNotLast.injEq] <;>
    omega

end Field

namespace Token

/- The token with `shift` more bytes in front of it. -/
def shifted
    (shift : Nat) :
    Token → Token
  | literal text => literal text
  | field f => field (f.shifted shift)

theorem exists_shifted_eq_placed
    (shift : Nat)
    (token : Token) :
    ∃ offset, token.shifted shift = token.placed offset := by
  cases token with
  | literal text => exact ⟨0, rfl⟩
  | field f => exact ⟨f.offset + shift, rfl⟩

end Token

/- A token or a violation with `shift` more bytes in front. -/
def shiftedItem
    (shift : Nat) :
    Except SyntaxError Token → Except SyntaxError Token
  | .ok token => .ok (token.shifted shift)
  | .error violation => .error (violation.shifted shift)

/- What was read with `shift` more bytes in front of it. -/
def Scan.shifted
    (shift : Nat)
    (read : Scan) :
    Scan :=
  ⟨read.tokens.map (Token.shifted shift),
    read.violation.map (SyntaxError.shifted shift)⟩

namespace Tokenizer

/- The reader with `shift` more bytes read. -/
def shifted
    (shift : Nat)
    (tokenizer : Tokenizer) :
    Tokenizer :=
  ⟨tokenizer.offset + shift, tokenizer.rest⟩

theorem next_shifted
    (tokenizer : Tokenizer)
    (shift : Nat) :
    (tokenizer.shifted shift).next =
      (tokenizer.next.1.map (shiftedItem shift),
        tokenizer.next.2.shifted shift) := by
  rcases tokenizer with ⟨offset, rest⟩
  unfold next
  simp only [shifted]
  split
  case h_1 => rfl
  case h_2 rest =>
      simp [shiftedItem, Token.shifted, Nat.add_right_comm]
  case h_3 rest =>
      simp [shiftedItem, Token.shifted, Nat.add_right_comm]
  case h_4 rest hSingle => rfl
  case h_5 rest hSingle =>
      cases splitBody 0 rest with
      | none => rfl
      | some parts =>
          rcases parts with ⟨body, after⟩
          have hEnd :
              offset + shift + body.byteSize + 2 =
                offset + body.byteSize + 2 + shift := by
            omega
          simp only [Field.ofBody_add, hEnd]
          cases Field.ofBody offset body with
          | error violation => rfl
          | ok field => rfl
  case h_6 c rest hOpens hCloses hClose hOpen =>
      simp only [Nat.add_right_comm offset shift]
      rfl

/- A reader that has read more reads the same further on. -/
theorem scan_shifted
    (tokenizer : Tokenizer)
    (shift : Nat) :
    (tokenizer.shifted shift).scan =
      tokenizer.scan.shifted shift := by
  fun_induction scan tokenizer with
  | case1 tokenizer following hNext =>
      have hShifted := next_shifted tokenizer shift
      rw [hNext] at hShifted
      apply scan_of_rest_eq_nil
      rw [← next_eq_none_iff, hShifted]
      rfl
  | case2 tokenizer violation following hNext =>
      have hShifted := next_shifted tokenizer shift
      rw [hNext] at hShifted
      rw [scan_of_next_error hShifted]
      rfl
  | case3 tokenizer token following hNext remaining ih =>
      have hShifted := next_shifted tokenizer shift
      rw [hNext] at hShifted
      rw [scan_of_next_ok hShifted, ih]
      rfl

end Tokenizer

end LogLine

------------------------------------------------------------
-- Reading across a Seam
------------------------------------------------------------

namespace LogLine

/- Only text that meets text is joined. -/
theorem Token.joinTo_of_apart
    {token : Token}
    {tokens : List Token}
    (hApart :
      token.isText = true →
        ∀ second ∈ tokens.head?, second.isText = false) :
    token.joinTo tokens = token :: tokens := by
  rcases token.joinTo_cases tokens with
    ⟨hEq, -⟩ | ⟨first, second, rest, rfl, rfl, hFirst, hSecond, -⟩
  · exact hEq
  · have hNotText := hApart hFirst (literal second) rfl
    rw [hNotText] at hSecond
    cases hSecond

theorem Token.joinTo_text
    {first second : Text}
    (hFirst : (literal first).isText = true)
    (hSecond : (literal second).isText = true)
    (rest : List Token) :
    (literal first).joinTo (literal second :: rest) =
      literal (first ++ second) :: rest := by
  simp [joinTo, hFirst, hSecond]

/-
  What was read with tokens in front of it; text that meets
  at the seam is one piece.
-/
def Scan.behind
    (tokens : List Token)
    (read : Scan) :
    Scan :=
  ⟨tokens.foldr Token.joinTo read.tokens, read.violation⟩

namespace Tokenizer

/- In front of a brace or of the end no text is read. -/
theorem isText_head?_scan
    {tokenizer : Tokenizer}
    (hStops : StopsText tokenizer.rest) :
    ∀ token ∈ tokenizer.scan.tokens.head?,
      token.isText = false := by
  intro token hHead
  cases hScan : tokenizer.scan with
  | mk tokens violation =>
      rw [hScan] at hHead
      cases tokens with
      | nil => cases hHead
      | cons first rest =>
          rw [List.head?_cons, Option.mem_def,
            Option.some.injEq] at hHead
          subst hHead
          rcases (scan_eq_cons_iff _ _ _ _).mp hScan with
            ⟨following, hStands, -⟩
          rw [hStands.rest] at hStops
          exact
            (Token.stopsText_unparse_append_iff
              hStands.readable _).mp hStops

/- Text in front of a brace or of the end is one piece. -/
theorem scan_text
    {text rest : Text}
    (hSome : text ≠ [])
    (hPlain : ∀ c ∈ text, isBrace c = false)
    (hStops : StopsText rest)
    (offset : Nat) :
    scan ⟨offset, text ++ rest⟩ =
      ⟨.literal text ::
          (scan ⟨offset + text.byteSize, rest⟩).tokens,
        (scan ⟨offset + text.byteSize, rest⟩).violation⟩ := by
  have hUnparse : (Token.literal text).unparse = text :=
    escapeBraces_of_plain hPlain
  apply scan_of_next_ok
  apply next_of_standsBetween
  exact
    { readable := Or.inr (Or.inr ⟨hSome, hPlain⟩)
      rest := by rw [hUnparse]
      offset := by rw [hUnparse]
      placed := rfl
      stops := fun _ => hStops }

/- Text runs on to the next brace, across any seam. -/
theorem scan_text_append
    {text : Text}
    (hSome : text ≠ [])
    (hPlain : ∀ c ∈ text, isBrace c = false)
    (offset : Nat)
    (rest : Text) :
    scan ⟨offset, text ++ rest⟩ =
      (scan ⟨offset + text.byteSize, rest⟩).behind
        [.literal text] := by
  have hText := (Token.isText_literal_iff text).mpr hPlain
  by_cases hStops : StopsText rest
  · rw [scan_text hSome hPlain hStops, Scan.behind,
      List.foldr_cons, List.foldr_nil, Token.joinTo_of_apart]
    intro _
    exact isText_head?_scan hStops
  · -- The text goes on behind the seam, up to the next brace.
    obtain ⟨more, hMore⟩ :
        ∃ more, more = Text.beforeFirst isBrace rest := ⟨_, rfl⟩
    have hMorePlain : ∀ c ∈ more, isBrace c = false := by
      rw [hMore]
      exact fun c hMem => Text.stop_eq_false_of_mem_beforeFirst hMem
    have hEnd := stopsText_fromFirst rest
    have hRest :=
      Text.beforeFirst_append_fromFirst isBrace rest
    rw [← hMore] at hRest
    have hMoreSome : more ≠ [] := by
      rintro rfl
      rw [List.nil_append] at hRest
      rw [hRest] at hEnd
      exact hStops hEnd
    have hBothPlain : ∀ c ∈ text ++ more, isBrace c = false := by
      intro c hMem
      rcases List.mem_append.mp hMem with hLeft | hRight
      · exact hPlain c hLeft
      · exact hMorePlain c hRight
    rw [← hRest, ← List.append_assoc,
      scan_text (by simp [hSome]) hBothPlain hEnd,
      scan_text hMoreSome hMorePlain hEnd, Scan.behind,
      List.foldr_cons, List.foldr_nil,
      Token.joinTo_text hText
        ((Token.isText_literal_iff more).mpr hMorePlain),
      Text.byteSize_append, Nat.add_assoc]

/- Readable tokens are read before all that stands behind. -/
theorem scan_unparse_append
    {tokens : List Token}
    (hReadable : ∀ token ∈ tokens, token.Readable)
    (offset : Nat)
    (rest : Text) :
    scan ⟨offset, unparse tokens ++ rest⟩ =
      (scan
          ⟨offset + (unparse tokens).byteSize, rest⟩).behind
        (placeTokens offset tokens) := by
  induction tokens generalizing offset with
  | nil => rfl
  | cons token tokens ih =>
      rw [List.forall_mem_cons] at hReadable
      have hRest := ih hReadable.2
        (offset + token.unparse.byteSize)
      rw [unparse_cons, List.append_assoc, placeTokens,
        Text.byteSize_append, ← Nat.add_assoc]
      cases hText : token.isText with
      | false =>
          have hStands :
              (token.placed offset).StandsBetween
                ⟨offset,
                  token.unparse ++ (unparse tokens ++ rest)⟩
                ⟨offset + token.unparse.byteSize,
                  unparse tokens ++ rest⟩ :=
            { readable :=
                (token.readable_placed offset).mpr hReadable.1
              rest := by rw [Token.unparse_placed]
              offset := by rw [Token.unparse_placed]
              placed := by cases token <;> rfl
              stops := by simp [hText] }
          rw [scan_of_next_ok (next_of_standsBetween hStands),
            hRest, Scan.behind, Scan.behind, List.foldr_cons,
            Token.joinTo_of_apart]
          simp [hText]
      | true =>
          cases token with
          | field f => cases hText
          | literal text =>
              have hPlain := (Token.isText_literal_iff text).mp hText
              have hSome : text ≠ [] := by
                rintro rfl
                simp [Token.Readable] at hReadable
              rw [Token.unparse, escapeBraces_of_plain hPlain]
                at hRest ⊢
              rw [scan_text_append hSome hPlain, hRest]
              rfl

end Tokenizer

/-
  Behind a template that can be read, a text is read as it is
  alone, with the bytes of the template counted.
-/
theorem scan_append
    {first : Text}
    {tokens : List Token}
    (hRead : tokenize first = .ok tokens)
    (second : Text) :
    scan (first ++ second) =
      ((scan second).shifted first.byteSize).behind tokens := by
  rcases (tokenize_eq_ok_iff first tokens).mp hRead with
    ⟨rfl, hCanonical, hPlaced⟩
  have hSeam :=
    Tokenizer.scan_unparse_append hCanonical.readable 0 second
  rw [hPlaced] at hSeam
  have hSecond :=
    (Tokenizer.start second).scan_shifted
      (unparse tokens).byteSize
  exact hSeam.trans (congrArg (Scan.behind tokens) hSecond)

theorem tokenize_append_of_error
    {first second : Text}
    {tokens : List Token}
    (hRead : tokenize first = .ok tokens)
    {violation : SyntaxError}
    (hFault : tokenize second = .error violation) :
    tokenize (first ++ second) =
      .error (violation.shifted first.byteSize) := by
  unfold tokenize at hFault ⊢
  rw [scan_append hRead]
  cases hViolation : (scan second).violation with
  | none =>
      rw [hViolation] at hFault
      cases hFault
  | some found =>
      rw [hViolation] at hFault
      cases hFault
      simp [Scan.behind, Scan.shifted, hViolation]

end LogLine
