import LogLine.Proofs.Template.Filling
import LogLine.Proofs.Template.NormalForm
import LogLine.Proofs.Template.Seam
import LogLine.Proofs.Template.Validated

/-
  What is made of two templates one behind the other: each
  pass gives what it gives for the first one, and behind it
  what it gives for the second one.

  Key definitions include:
    * `LogLine.writtenBehind`
    * `LogLine.Template.append`
    * `LogLine.Markup.behind`

  Key theorems include:
    * `LogLine.stripColor_append`
    * `LogLine.Template.parse_append`
    * `LogLine.Template.render_append`
    * `LogLine.compile_append`
    * `LogLine.passes_compose_at_seams`
-/

------------------------------------------------------------
-- Taking Colour Away
------------------------------------------------------------

namespace LogLine

@[simp]
theorem Token.plain_shifted
    (token : Token)
    (shift : Nat) :
    (token.shifted shift).plain = token.plain := by
  rcases token.exists_shifted_eq_placed shift with
    ⟨offset, hPlaced⟩
  rw [hPlaced, plain_placed]

theorem plainText_map_shifted
    (shift : Nat)
    (tokens : List Token) :
    plainText (tokens.map (Token.shifted shift)) =
      plainText tokens := by
  simp [plainText, Function.comp_def]

theorem plainText_foldr_joinTo
    (first second : List Token) :
    plainText (first.foldr Token.joinTo second) =
      plainText first ++ plainText second := by
  induction first with
  | nil => rfl
  | cons token rest ih =>
      rw [List.foldr_cons, plainText_joinTo, ih, plainText_cons,
        List.append_assoc]

/-
  The result of a pass behind a text that is written already;
  `shift` moves the position of a fault.
-/
def writtenBehind
    {ε : Type}
    (written : Text)
    (shift : ε → ε)
    (result : Except ε Text) :
    Except ε Text :=
  (result.map (fun text => written ++ text)).mapError shift

theorem stripColor_append
    {first : Text}
    {tokens : List Token}
    (hRead : tokenize first = .ok tokens)
    (second : Text) :
    stripColor (first ++ second) =
      writtenBehind (plainText tokens)
        (SyntaxError.shifted first.byteSize)
        (stripColor second) := by
  unfold stripColor
  rw [scan_append hRead]
  rcases scan second with ⟨behind, violation⟩
  cases violation with
  | some violation => rfl
  | none =>
      have hText :
          plainText
              (tokens.foldr Token.joinTo
                (behind.map (Token.shifted first.byteSize))) =
            plainText tokens ++ plainText behind := by
        rw [plainText_foldr_joinTo, plainText_map_shifted]
      exact congrArg Except.ok hText

end LogLine

------------------------------------------------------------
-- Parsing and Filling In
------------------------------------------------------------

namespace LogLine

/- The fault with `shift` more bytes in front of the template. -/
def ParseError.shifted
    (shift : Nat) :
    ParseError → ParseError
  | malformed violation => malformed (violation.shifted shift)
  | format failure => format failure
  | conversion c => conversion c

@[simp]
theorem Token.segment_shifted
    (token : Token)
    (shift : Nat) :
    (token.shifted shift).segment = token.segment := by
  rcases token.exists_shifted_eq_placed shift with
    ⟨offset, hPlaced⟩
  rw [hPlaced, segment_placed]

theorem readSegments_map_shifted
    (shift : Nat)
    (tokens : List Token) :
    readSegments (tokens.map (Token.shifted shift)) =
      readSegments tokens := by
  induction tokens with
  | nil => rfl
  | cons token rest ih =>
      rw [List.map_cons, readSegments, readSegments, ih,
        Token.segment_shifted]

theorem readSegments_foldr_joinTo
    (first second : List Token) :
    readSegments (first.foldr Token.joinTo second) =
      readSegments (first ++ second) := by
  induction first with
  | nil => rfl
  | cons token rest ih =>
      rw [List.foldr_cons, readSegments_joinTo, readSegments, ih,
        List.cons_append, readSegments]

/- Pieces join at a seam as they do elsewhere. -/
theorem Segment.foldr_cons_cons
    (segment : Segment)
    (first second : List Segment) :
    (segment.cons first).foldr Segment.cons second =
      segment.cons (first.foldr Segment.cons second) := by
  unfold Segment.cons
  split
  case h_2 => rfl
  case h_1 text following rest =>
      exact
        (Segment.cons_literal_cons_literal text following
          (rest.foldr Segment.cons second)).symm

theorem readSegments_append
    (first second : List Token) :
    readSegments (first ++ second) =
      (do
        let front ← readSegments first
        let back ← readSegments second
        return front.foldr Segment.cons back) := by
  induction first with
  | nil =>
      rw [List.nil_append]
      cases readSegments second with
      | error fault => rfl
      | ok back => rfl
  | cons token rest ih =>
      rw [List.cons_append, readSegments, readSegments, ih]
      cases token.segment with
      | error fault => rfl
      | ok piece =>
          cases readSegments rest with
          | error fault => rfl
          | ok front =>
              cases readSegments second with
              | error fault => rfl
              | ok back =>
                  have hJoin := piece.foldr_cons_cons front back
                  exact congrArg Except.ok hJoin.symm

/- A fault of pieces has no position of its own. -/
theorem readSegments_mapError_shifted
    (shift : Nat)
    (tokens : List Token) :
    (readSegments tokens).mapError (ParseError.shifted shift) =
      readSegments tokens := by
  cases hRead : readSegments tokens with
  | ok segments => rfl
  | error fault =>
      rcases readSegments_faulty hRead with ⟨token, -, hFault⟩
      cases token with
      | literal text => cases hFault
      | field f =>
          rw [Token.segment_field] at hFault
          rcases Field.piece_eq_error hFault with
            ⟨c, -, -, rfl⟩ | ⟨spec, -, -, -, rfl⟩
          · rfl
          · rfl

theorem parseSegments_append
    {first : Text}
    {tokens : List Token}
    (hRead : tokenize first = .ok tokens)
    (second : Text) :
    parseSegments (first ++ second) =
      (do
        let front ← parseSegments first
        let back ←
          (parseSegments second).mapError
            (ParseError.shifted first.byteSize)
        return front.foldr Segment.cons back) := by
  rw [parseSegments_eq_scan (first ++ second), scan_append hRead,
    parseSegments_eq_readSegments hRead,
    parseSegments_eq_scan second]
  rcases scan second with ⟨behind, violation⟩
  simp only [Scan.behind, Scan.shifted, readSegments_foldr_joinTo,
    readSegments_append, readSegments_map_shifted]
  have hFault :=
    readSegments_mapError_shifted first.byteSize behind
  cases readSegments tokens with
  | error fault => rfl
  | ok front =>
      cases hBehind : readSegments behind with
      | error fault =>
          rw [hBehind] at hFault
          exact hFault.symm
      | ok back =>
          cases violation with
          | none => rfl
          | some violation => rfl

/- Pieces of joined templates give the joined texts. -/
theorem renderSegments_foldr_cons
    (lookup : Lookup)
    (front back : List Segment) :
    renderSegments lookup (front.foldr Segment.cons back) =
      (do
        let line ← renderSegments lookup front
        let behind ← renderSegments lookup back
        return line ++ behind) := by
  induction front with
  | nil =>
      rw [List.foldr_nil]
      cases renderSegments lookup back with
      | error fault => rfl
      | ok behind => rfl
  | cons segment rest ih =>
      rw [List.foldr_cons, renderSegments_segment_cons,
        renderSegments, renderSegments, ih]
      cases segment.fill lookup with
      | error fault => rfl
      | ok text =>
          cases renderSegments lookup rest with
          | error fault => rfl
          | ok line =>
              cases renderSegments lookup back with
              | error fault => rfl
              | ok behind =>
                  have hText := List.append_assoc text line behind
                  exact congrArg Except.ok hText.symm

namespace Template

/- A template with another one behind it. -/
def append
    (front back : Template) :
    Template :=
  ⟨front.source ++ back.source,
    front.segments.foldr Segment.cons back.segments⟩

theorem render_append
    (front back : Template)
    (lookup : Lookup) :
    (front.append back).render lookup =
      (do
        let line ← front.render lookup
        let behind ← back.render lookup
        return line ++ behind) :=
  renderSegments_foldr_cons lookup front.segments back.segments

theorem parse_append
    {first : Text}
    {tokens : List Token}
    (hRead : tokenize first = .ok tokens)
    (second : Text) :
    parse (first ++ second) =
      (do
        let front ← parse first
        let back ←
          (parse second).mapError
            (ParseError.shifted first.byteSize)
        return front.append back) := by
  unfold parse
  rw [parseSegments_append hRead]
  cases parseSegments first with
  | error fault => rfl
  | ok front =>
      cases parseSegments second with
      | error fault => rfl
      | ok back => rfl

end Template

end LogLine

------------------------------------------------------------
-- Adding Markers
------------------------------------------------------------

namespace LogLine

/- The fault with `shift` more bytes in front of the template. -/
def CompileError.shifted
    (shift : Nat) :
    CompileError → CompileError
  | malformed violation => malformed (violation.shifted shift)
  | fault => fault

@[simp]
theorem Field.role_shifted
    (shift : Nat)
    (field : Field) :
    (field.shifted shift).role = field.role :=
  rfl

/- The group with `shift` more bytes in front of its opening. -/
def Group.shifted
    (shift : Nat) :
    Group → Group
  | pending enter inside => pending (enter.shifted shift) inside
  | group => group

namespace Markup

/- The same state behind a text of `shift` bytes. -/
def behind
    (text : Text)
    (shift : Nat)
    (markup : Markup) :
    Markup :=
  ⟨text ++ markup.written, markup.group.shifted shift⟩

section Steps

variable (markup : Markup) (text : Text) (shift : Nat)

theorem put_behind
    (more : Text) :
    (markup.behind text shift).put more =
      (markup.put more).behind text shift := by
  rcases markup with ⟨written, group⟩
  cases group <;> simp [put, behind, Group.shifted]

theorem openGroup_behind
    (enter : Field) :
    (markup.behind text shift).openGroup (enter.shifted shift) =
      (markup.openGroup enter).map (behind text shift) := by
  rcases markup with ⟨written, group⟩
  cases group <;> rfl

theorem closeGroup_behind
    (exit : Field) :
    (markup.behind text shift).closeGroup (exit.shifted shift) =
      (markup.closeGroup exit).map (behind text shift) := by
  rcases markup with ⟨written, group⟩
  cases group <;>
    simp [closeGroup, behind, Group.shifted, Except.map]

theorem putMarked_behind
    (f : Field) :
    (markup.behind text shift).putMarked (f.shifted shift) =
      (markup.putMarked f).behind text shift := by
  rcases markup with ⟨written, group⟩
  cases group <;> simp [putMarked, behind, Group.shifted]

theorem finish_behind :
    (markup.behind text shift).finish =
      writtenBehind text (CompileError.shifted shift)
        markup.finish := by
  rcases markup with ⟨written, group⟩
  cases group <;> rfl

/- A step depends on the group, but on nothing in front of it. -/
theorem step_behind
    (token : Token) :
    (markup.behind text shift).step (token.shifted shift) =
      (markup.step token).map (behind text shift) := by
  cases token with
  | literal piece =>
      exact congrArg Except.ok (markup.put_behind text shift _)
  | field f =>
      simp only [step, Token.shifted, Field.role_shifted]
      cases f.role with
      | positional =>
          exact congrArg Except.ok (markup.put_behind text shift _)
      | unmarked bare =>
          exact congrArg Except.ok (markup.put_behind text shift _)
      | enter => exact markup.openGroup_behind text shift f
      | exit => exact markup.closeGroup_behind text shift f
      | marked =>
          exact congrArg Except.ok
            (markup.putMarked_behind text shift f)

theorem foldlM_step_behind
    (tokens : List Token) :
    (tokens.map (Token.shifted shift)).foldlM step
        (markup.behind text shift) =
      (tokens.foldlM step markup).map (behind text shift) := by
  induction tokens generalizing markup with
  | nil => rfl
  | cons token rest ih =>
      rw [List.map_cons, List.foldlM_cons, List.foldlM_cons,
        step_behind]
      cases markup.step token with
      | error fault => rfl
      | ok following => exact ih following

end Steps

/- A text without an open group is behind itself. -/
theorem eq_behind_of_finish
    {markup : Markup}
    {text : Text}
    (hFinish : markup.finish = .ok text)
    (shift : Nat) :
    markup = start.behind text shift := by
  rcases markup with ⟨written, group⟩
  cases group with
  | closed =>
      cases hFinish
      simp [behind, start, Group.shifted]
  | pending enter inside => cases hFinish
  | bound name => cases hFinish

theorem put_put
    (markup : Markup)
    (first second : Text) :
    (markup.put first).put second =
      markup.put (first ++ second) := by
  rcases markup with ⟨written, group⟩
  cases group <;> simp [put]

/- It does not matter whether text that meets is joined. -/
theorem foldlM_step_joinTo
    (markup : Markup)
    (token : Token)
    (tokens : List Token) :
    (token.joinTo tokens).foldlM step markup =
      (token :: tokens).foldlM step markup := by
  rcases token.joinTo_cases tokens with
    ⟨hEq, -⟩ | ⟨first, second, rest, rfl, rfl, -, -, hEq⟩
  · rw [hEq]
  · have hPut :=
      put_put markup (escapeBraces first) (escapeBraces second)
    rw [← escapeBraces_append] at hPut
    rw [hEq]
    exact congrArg (fun following => rest.foldlM step following) hPut.symm

theorem foldlM_step_foldr_joinTo
    (markup : Markup)
    (first second : List Token) :
    (first.foldr Token.joinTo second).foldlM step markup =
      (first ++ second).foldlM step markup := by
  induction first generalizing markup with
  | nil => rfl
  | cons token rest ih =>
      rw [List.foldr_cons, foldlM_step_joinTo, List.cons_append,
        List.foldlM_cons, List.foldlM_cons]
      exact congrArg _ (funext ih)

end Markup

/- A fault of groups has no position. -/
theorem CompileError.shifted_of_mem
    {fault : CompileError}
    (hFault : fault ∈ groupFaults)
    (shift : Nat) :
    fault.shifted shift = fault := by
  cases fault with
  | malformed violation => simp [groupFaults] at hFault
  | nestedGroup => rfl
  | unmatchedExit => rfl
  | emptyGroup => rfl
  | unterminatedGroup => rfl

/-
  Where no group is open, markers are added to what follows
  as if it stood alone.
-/
theorem compile_append
    {first marked : Text}
    {tokens : List Token}
    (hRead : tokenize first = .ok tokens)
    (hCompile : compile first = .ok marked)
    (second : Text) :
    compile (first ++ second) =
      writtenBehind marked
        (CompileError.shifted first.byteSize)
        (compile second) := by
  rw [compile_of_tokenize hRead, bind_eq_ok_iff] at hCompile
  rcases hCompile with ⟨final, hFold, hFinish⟩
  have hFinal :=
    Markup.eq_behind_of_finish hFinish first.byteSize
  unfold compile
  rw [scan_append hRead]
  rcases scan second with ⟨behind, violation⟩
  have hSecond :=
    Markup.start.foldlM_step_behind marked first.byteSize
      behind
  rw [← hFinal] at hSecond
  simp only [Scan.behind, Scan.shifted,
    Markup.foldlM_step_foldr_joinTo, List.foldlM_append, hFold]
  show (List.foldlM Markup.step final _ >>= _) = _
  rw [hSecond]
  cases hRest : behind.foldlM Markup.step Markup.start with
  | error fault =>
      have hGroup := Markup.foldlM_step_faulty hRest
      have hSame :=
        CompileError.shifted_of_mem hGroup first.byteSize
      exact congrArg Except.error hSame.symm
  | ok markup =>
      cases violation with
      | some violation => rfl
      | none => exact markup.finish_behind marked first.byteSize

end LogLine

------------------------------------------------------------
-- Seams
------------------------------------------------------------

namespace LogLine

/-
  Every pass goes token by token.  Behind a template that it
  accepts, a pass gives what it gives for the rest alone.  A
  violation of the rest is counted from the start of the
  whole; a fault that shows in filling in is not.
-/
theorem passes_compose_at_seams
    {first : Text}
    {tokens : List Token}
    (hRead : tokenize first = .ok tokens)
    (second : Text) :
    (∀ violation,
      tokenize second = .error violation →
        tokenize (first ++ second) =
          .error (violation.shifted first.byteSize)) ∧
    (∃ visible,
      stripColor first = .ok visible ∧
      (∀ behind,
        stripColor second = .ok behind →
          stripColor (first ++ second) =
            .ok (visible ++ behind)) ∧
      ∀ violation,
        stripColor second = .error violation →
          stripColor (first ++ second) =
            .error (violation.shifted first.byteSize)) ∧
    (∀ front,
      Template.parse first = .ok front →
      (∀ back,
        Template.parse second = .ok back →
          ∃ whole,
            Template.parse (first ++ second) = .ok whole ∧
            ∀ lookup,
              whole.render lookup =
                (do
                  let line ← front.render lookup
                  let behind ← back.render lookup
                  return line ++ behind)) ∧
      ∀ fault,
        Template.parse second = .error fault →
          Template.parse (first ++ second) =
            .error (fault.shifted first.byteSize)) ∧
    (∀ fault,
      Template.parse first = .error fault →
        Template.parse (first ++ second) = .error fault) ∧
    ∀ marked,
      compile first = .ok marked →
      (∀ behind,
        compile second = .ok behind →
          compile (first ++ second) = .ok (marked ++ behind)) ∧
      ∀ fault,
        compile second = .error fault →
          compile (first ++ second) =
            .error (fault.shifted first.byteSize) := by
  refine ⟨?_, ?_, ?_, ?_, ?_⟩
  · intro violation hFault
    exact tokenize_append_of_error hRead hFault
  · refine
      ⟨plainText tokens, stripColor_eq_plainText hRead, ?_, ?_⟩
    · intro behind hStrip
      rw [stripColor_append hRead, hStrip]
      rfl
    · intro violation hFault
      rw [stripColor_append hRead, hFault]
      rfl
  · intro front hFront
    constructor
    · intro back hBack
      refine ⟨front.append back, ?_, ?_⟩
      · rw [Template.parse_append hRead, hFront, hBack]
        rfl
      · exact front.render_append back
    · intro fault hFault
      rw [Template.parse_append hRead, hFront, hFault]
      rfl
  · intro fault hFault
    rw [Template.parse_append hRead, hFault]
    rfl
  · intro marked hMarked
    constructor
    · intro behind hBehind
      rw [compile_append hRead hMarked, hBehind]
      rfl
    · intro fault hFault
      rw [compile_append hRead hMarked, hFault]
      rfl

/- A group with a nested width, and text up to the end. -/
def groupInFront : Text :=
  "\x7benter\x7d\x7bn!r:>\x7bw\x7d\x7d\x7bexit\x7d\x7b\x7b é".toList

/- Text that goes on, and a nested spec that cannot be read. -/
def specBehind : Text :=
  "x\x7bm:\x7b!\x7d\x7d\x7d\x7d".toList

/- Text that goes on, and a brace that closes nothing. -/
def closeBehind : Text :=
  "x\x7b_m!s\x7d\x7d".toList

theorem passes_compose_at_seams_of_group :
    tokenize groupInFront = .ok (scan groupInFront).tokens ∧
    (∃ visible behind,
      stripColor groupInFront = .ok visible ∧
      stripColor specBehind = .ok behind ∧
      stripColor (groupInFront ++ specBehind) =
        .ok (visible ++ behind)) ∧
    (∃ front back whole,
      Template.parse groupInFront = .ok front ∧
      Template.parse specBehind = .ok back ∧
      Template.parse (groupInFront ++ specBehind) = .ok whole ∧
      ∀ lookup,
        whole.render lookup =
          (do
            let line ← front.render lookup
            let behind ← back.render lookup
            return line ++ behind)) ∧
    ∃ marked behind,
      compile groupInFront = .ok marked ∧
      compile specBehind = .ok behind ∧
      compile (groupInFront ++ specBehind) =
        .ok (marked ++ behind) ∧
      compile closeBehind =
        .error (.malformed (.unmatchedClose 7)) ∧
      compile (groupInFront ++ closeBehind) =
        .error (.malformed (.unmatchedClose 35)) := by
  have hRead :
      tokenize groupInFront = .ok (scan groupInFront).tokens := by
    decide +kernel
  have hParsed :
      (Template.parse groupInFront).toOption.isSome = true ∧
        (Template.parse specBehind).toOption.isSome = true := by
    decide +kernel
  have hWritten :
      (compile groupInFront).toOption.isSome = true ∧
        (stripColor specBehind).toOption.isSome = true ∧
        (compile specBehind).toOption.isSome = true := by
    decide +kernel
  have hFaulty :
      compile closeBehind =
        .error (.malformed (.unmatchedClose 7)) := by
    decide +kernel
  simp only [Option.isSome_iff_exists, toOption_eq_some_iff]
    at hParsed hWritten
  rcases hParsed with ⟨⟨front, hFront⟩, back, hBack⟩
  rcases hWritten with
    ⟨⟨marked, hMarked⟩, ⟨plain, hPlain⟩, behind, hBehind⟩
  rcases passes_compose_at_seams hRead specBehind with
    ⟨-, ⟨visible, hVisible, hStrip, -⟩, hParse, -, hCompile⟩
  rcases passes_compose_at_seams hRead closeBehind with
    ⟨-, -, -, -, hClose⟩
  rcases (hParse front hFront).1 back hBack with
    ⟨whole, hWhole, hRender⟩
  exact
    ⟨hRead,
      ⟨visible, plain, hVisible, hPlain, hStrip plain hPlain⟩,
      ⟨front, back, whole, hFront, hBack, hWhole, hRender⟩,
      marked, behind, hMarked, hBehind,
      (hCompile marked hMarked).1 behind hBehind, hFaulty,
      (hClose marked hMarked).2 _ hFaulty⟩

end LogLine
