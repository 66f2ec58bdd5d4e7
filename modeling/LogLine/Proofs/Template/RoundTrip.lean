import Mathlib.Data.List.Chain
import LogLine.Proofs.Template.FieldBody

/-
  Reading a template and writing its tokens back are inverse
  to each other.

  Key definitions include:
    * `LogLine.Token.Readable`
    * `LogLine.Canonical`
    * `LogLine.placeTokens`
    * `LogLine.OffsetsMatch`
    * `LogLine.joinText`

  Key theorems include:
    * `LogLine.Tokenizer.next_eq_ok_iff`
    * `LogLine.tokenize_eq_ok_iff`
    * `LogLine.tokenize_unparse`
    * `LogLine.exists_field_of_mem_read`
    * `LogLine.exists_offset_mem_read`
    * `LogLine.tokenize_inverse_unparse`
-/

------------------------------------------------------------
-- Tokens That Read Back
------------------------------------------------------------

namespace LogLine

namespace Token

/- Whether a token is text without braces. -/
def isText : Token → Bool
  | literal text => text.all (fun c => !isBrace c)
  | field _ => false

/-
  A token that a reader can give: one brace, some text
  without braces, or a readable field.
-/
def Readable : Token → Prop
  | literal text =>
      text = ['{'] ∨ text = ['}'] ∨
        text ≠ [] ∧ ∀ c ∈ text, isBrace c = false
  | field f => f.Readable

instance :
    DecidablePred Readable
  | literal text =>
      inferInstanceAs
        (Decidable
          (text = ['{'] ∨ text = ['}'] ∨
            text ≠ [] ∧ ∀ c ∈ text, isBrace c = false))
  | field f => inferInstanceAs (Decidable f.Readable)

/- The token with `offset` bytes in front of it. -/
def placed
    (offset : Nat) :
    Token → Token
  | literal text => literal text
  | field f => field { f with offset }

@[simp]
theorem isText_placed
    (token : Token)
    (offset : Nat) :
    (token.placed offset).isText = token.isText := by
  cases token <;> rfl

@[simp]
theorem unparse_placed
    (token : Token)
    (offset : Nat) :
    (token.placed offset).unparse = token.unparse := by
  cases token <;> rfl

/- Where a field stands does not matter for reading it back. -/
@[simp]
theorem readable_placed
    (token : Token)
    (offset : Nat) :
    (token.placed offset).Readable ↔ token.Readable := by
  cases token with
  | literal text => exact Iff.rfl
  | field f =>
      show Field.Readable { f with offset } ↔ f.Readable
      rw [Field.readable_iff, Field.readable_iff]
      exact Iff.rfl

end Token

/-
  The token lists that reading gives.  Text is read as far
  as it goes, so that no two pieces of it are neighbours.
-/
structure Canonical
    (tokens : List Token) : Prop where
  readable : ∀ token ∈ tokens, token.Readable
  apart :
    tokens.IsChain fun first second =>
      ¬ (first.isText = true ∧ second.isText = true)

/- The tokens with the bytes in front of them counted. -/
def placeTokens
    (offset : Nat) :
    List Token → List Token
  | [] => []
  | token :: rest =>
      token.placed offset ::
        placeTokens (offset + token.unparse.byteSize) rest

/-
  The offset of each field is the number of bytes of the
  tokens in front of it.
-/
def OffsetsMatch
    (tokens : List Token) : Prop :=
  ∀ before f after,
    tokens = before ++ .field f :: after →
      f.offset = (unparse before).byteSize

end LogLine

------------------------------------------------------------
-- Texts of Tokens
------------------------------------------------------------

namespace LogLine

@[simp]
theorem unparse_nil :
    unparse [] = [] :=
  rfl

@[simp]
theorem unparse_cons
    (token : Token)
    (rest : List Token) :
    unparse (token :: rest) = token.unparse ++ unparse rest :=
  rfl

@[simp]
theorem unparse_append
    (first second : List Token) :
    unparse (first ++ second) =
      unparse first ++ unparse second := by
  simp [unparse]

theorem escapeBraces_of_plain
    {text : Text}
    (hPlain : ∀ c ∈ text, isBrace c = false) :
    escapeBraces text = text := by
  induction text with
  | nil => rfl
  | cons c rest ih =>
      have hFirst := hPlain c List.mem_cons_self
      simp only [isBrace, Bool.or_eq_false_iff,
        beq_eq_false_iff_ne, ne_eq] at hFirst
      rw [escapeBraces, ih]
      · intro d hMem
        exact hPlain d (List.mem_cons_of_mem c hMem)
      · exact hFirst.1
      · exact hFirst.2

theorem Token.isText_literal_iff
    (text : Text) :
    (Token.literal text).isText = true ↔
      ∀ c ∈ text, isBrace c = false := by
  simp [Token.isText]

/- A text that no piece of text in front of it runs into. -/
def StopsText
    (rest : Text) : Prop :=
  ∀ c ∈ rest.head?, isBrace c = true

/- A readable token is text exactly if no brace opens it. -/
theorem Token.stopsText_unparse_append_iff
    {token : Token}
    (hReadable : token.Readable)
    (rest : Text) :
    StopsText (token.unparse ++ rest) ↔
      token.isText = false := by
  cases token with
  | field f => simp [StopsText, unparse, Field.write,
      isBrace, isText]
  | literal text =>
      rcases hReadable with rfl | rfl | ⟨hSome, hPlain⟩
      · simp [StopsText, unparse, escapeBraces, isBrace, isText]
      · simp [StopsText, unparse, escapeBraces, isBrace, isText]
      · have hText := (isText_literal_iff text).mpr hPlain
        rw [hText, unparse, escapeBraces_of_plain hPlain]
        cases text with
        | nil => exact absurd rfl hSome
        | cons c text =>
            simp [StopsText, hPlain c List.mem_cons_self]

theorem stopsText_unparse_iff
    {tokens : List Token}
    (hReadable : ∀ token ∈ tokens, token.Readable) :
    StopsText (unparse tokens) ↔
      ∀ token ∈ tokens.head?, token.isText = false := by
  cases tokens with
  | nil => simp [StopsText]
  | cons token rest =>
      rw [unparse_cons, Token.stopsText_unparse_append_iff
        (hReadable token List.mem_cons_self)]
      simp

end LogLine

------------------------------------------------------------
-- One Step of the Reader
------------------------------------------------------------

namespace LogLine

/-
  A token between two places of a reader.  Text reaches as
  far as it can, and all else ends by itself.
-/
structure Token.StandsBetween
    (token : Token)
    (before after : Tokenizer) : Prop where
  readable : token.Readable
  rest : before.rest = token.unparse ++ after.rest
  offset :
    after.offset = before.offset + token.unparse.byteSize
  placed : token.placed before.offset = token
  stops : token.isText = true → StopsText after.rest

namespace Token

/- A field as text stands between two braces. -/
theorem unparse_field_append
    (f : Field)
    (rest : Text) :
    (field f).unparse ++ rest =
      '{' :: (f.body ++ '}' :: rest) := by
  rw [unparse, Field.write_eq_body]
  simp

theorem byteSize_unparse_field
    (f : Field) :
    (field f).unparse.byteSize = f.body.byteSize + 2 := by
  rw [unparse, Field.write_eq_body]
  simp only [Text.byteSize_cons, Text.byteSize_append,
    Text.byteSize_nil]
  have hOpen : Char.utf8Size '{' = 1 := rfl
  have hClose : Char.utf8Size '}' = 1 := rfl
  omega

end Token

namespace Tokenizer

theorem beforeFirst_append_of_stopsText
    {text rest : Text}
    (hPlain : ∀ c ∈ text, isBrace c = false)
    (hStops : StopsText rest) :
    Text.beforeFirst isBrace (text ++ rest) = text ∧
      Text.fromFirst isBrace (text ++ rest) = rest := by
  have hAll : ∀ c ∈ text, (!isBrace c) = true := by
    intro c hMem
    rw [hPlain c hMem]
    rfl
  unfold Text.beforeFirst Text.fromFirst
  rw [List.takeWhile_append_of_pos hAll,
    List.dropWhile_append_of_pos hAll]
  cases rest with
  | nil => simp
  | cons c rest =>
      have hBrace : isBrace c = true := hStops c rfl
      simp [hBrace]

/- A single opening brace opens a field. -/
theorem next_open
    (offset : Nat)
    {text body after : Text}
    {field : Field}
    (hSingle : text.head? ≠ some '{')
    (hSplit : splitBody 0 text = some (body, after))
    (hBody : Field.ofBody offset body = .ok field) :
    next ⟨offset, '{' :: text⟩ =
      (some (.ok (.field field)),
        ⟨offset + body.byteSize + 2, after⟩) := by
  unfold next
  simp only
  split
  case h_1 hEq => simp at hEq
  case h_2 rest hEq =>
      rw [List.cons.injEq] at hEq
      rw [hEq.2] at hSingle
      exact absurd rfl hSingle
  case h_3 rest hEq => simp at hEq
  case h_4 rest _ hEq => simp at hEq
  case h_5 rest _ hEq =>
      rw [List.cons.injEq] at hEq
      rw [← hEq.2, hSplit]
      simp only
      rw [hBody]
  case h_6 c rest _ _ _ hOther hEq =>
      rw [List.cons.injEq] at hEq
      exact absurd hEq.1.symm hOther

/- A reader reads the token that it stands in front of. -/
theorem next_of_standsBetween
    {before after : Tokenizer}
    {token : Token}
    (hStands : token.StandsBetween before after) :
    before.next = (some (.ok token), after) := by
  rcases before with ⟨offset, text⟩
  rcases after with ⟨behind, rest⟩
  rcases hStands with
    ⟨hReadable, hRest, hOffset, hPlaced, hStops⟩
  simp only at hRest hOffset hPlaced hStops
  subst hRest hOffset
  cases token with
  | literal text =>
      rcases hReadable with rfl | rfl | ⟨hSome, hPlain⟩
      · rfl
      · rfl
      · rw [Token.unparse, escapeBraces_of_plain hPlain]
        cases text with
        | nil => exact absurd rfl hSome
        | cons c text =>
            have hText :=
              (Token.isText_literal_iff (c :: text)).mpr hPlain
            have hFirst := hPlain c List.mem_cons_self
            rcases beforeFirst_append_of_stopsText
                (fun d hMem =>
                  hPlain d (List.mem_cons_of_mem c hMem))
                (hStops hText) with
              ⟨hBefore, hFrom⟩
            unfold next
            simp only [List.cons_append]
            split
            case h_6 d later hOpen hClose hSingle hField hEq =>
                rw [List.cons.injEq] at hEq
                rw [← hEq.1, ← hEq.2, hBefore, hFrom]
            case h_1 hEq => simp at hEq
            all_goals
              rename_i hEq
              rw [List.cons.injEq] at hEq
              rw [hEq.1] at hFirst
              simp [isBrace] at hFirst
  | field f =>
      have hOffset : f.offset = offset := by
        simp only [Token.placed, Token.field.injEq] at hPlaced
        rw [← hPlaced]
      have hBody :
          Field.ofBody offset f.body = .ok f :=
        (Field.ofBody_eq_ok_iff offset f.body f).mpr
          ⟨rfl, hOffset, hReadable.separators,
            hReadable.closed⟩
      have hSplit :
          splitBody 0 (f.body ++ '}' :: rest) =
            some (f.body, rest) :=
        splitBody_append_close hReadable.balanced rest
      have hSingle :
          (f.body ++ '}' :: rest).head? ≠ some '{' := by
        have hOpening := hReadable.opening
        cases hHead : f.body with
        | nil => simp
        | cons c body =>
            rw [hHead] at hOpening
            exact hOpening
      rw [Token.unparse_field_append,
        Token.byteSize_unparse_field,
        next_open offset hSingle hSplit hBody]
      rfl

theorem stopsText_fromFirst
    (text : Text) :
    StopsText (Text.fromFirst isBrace text) := by
  intro c hHead
  unfold Text.fromFirst at hHead
  have hStop := List.head?_dropWhile_not
    (fun c => !isBrace c) text
  rw [Option.mem_def.mp hHead] at hStop
  simpa using hStop

/- A token that is read stands where it is read. -/
theorem standsBetween_of_next
    {before after : Tokenizer}
    {token : Token}
    (hNext : before.next = (some (.ok token), after)) :
    token.StandsBetween before after := by
  rcases before with ⟨offset, text⟩
  unfold next at hNext
  simp only at hNext
  split at hNext
  case h_1 => simp at hNext
  case h_2 rest =>
      simp only [Prod.mk.injEq, Option.some.injEq,
        Except.ok.injEq] at hNext
      rcases hNext with ⟨rfl, rfl⟩
      exact ⟨Or.inl rfl, rfl, rfl, rfl,
        by simp [Token.isText, isBrace]⟩
  case h_3 rest =>
      simp only [Prod.mk.injEq, Option.some.injEq,
        Except.ok.injEq] at hNext
      rcases hNext with ⟨rfl, rfl⟩
      exact ⟨Or.inr (Or.inl rfl), rfl, rfl, rfl,
        by simp [Token.isText, isBrace]⟩
  case h_4 => simp at hNext
  case h_5 rest hSingle =>
      split at hNext
      · simp at hNext
      · rename_i body later hSplit
        split at hNext
        · simp at hNext
        · rename_i field hBody
          simp only [Prod.mk.injEq, Option.some.injEq,
            Except.ok.injEq] at hNext
          rcases hNext with ⟨rfl, rfl⟩
          rcases (Field.ofBody_eq_ok_iff offset body field).mp
              hBody with
            ⟨rfl, hOffset, hSeparators, hClosed⟩
          have hRest := splitBody_eq_some hSplit
          refine
            { readable :=
                ⟨braceDepth_of_splitBody hSplit, ?_,
                  hSeparators, hClosed⟩
              rest := ?_
              offset := ?_
              placed := by rw [← hOffset]; rfl
              stops := by simp [Token.isText] }
          · intro hOpening
            cases hBodyText : field.body with
            | nil => simp [hBodyText] at hOpening
            | cons d inner =>
                rw [hBodyText, List.head?_cons,
                  Option.some.injEq] at hOpening
                rw [hBodyText, hOpening] at hRest
                exact hSingle _ hRest
          · rw [Token.unparse_field_append, hRest]
          · rw [Token.byteSize_unparse_field]
            exact Nat.add_assoc _ _ _
  case h_6 c rest _ _ hClose hOpen =>
      simp only [Prod.mk.injEq, Option.some.injEq,
        Except.ok.injEq] at hNext
      rcases hNext with ⟨rfl, rfl⟩
      have hPlain :
          ∀ d ∈ c :: Text.beforeFirst isBrace rest,
            isBrace d = false := by
        intro d hMem
        rcases List.mem_cons.mp hMem with rfl | hLater
        · simp only [isBrace, Bool.or_eq_false_iff,
            beq_eq_false_iff_ne, ne_eq]
          exact ⟨hOpen, hClose⟩
        · exact Text.stop_eq_false_of_mem_beforeFirst hLater
      have hUnparse :
          (Token.literal
            (c :: Text.beforeFirst isBrace rest)).unparse =
            c :: Text.beforeFirst isBrace rest :=
        escapeBraces_of_plain hPlain
      refine
        { readable := Or.inr (Or.inr ⟨by simp, hPlain⟩)
          rest := ?_
          offset := by rw [hUnparse]
          placed := rfl
          stops := fun _ => stopsText_fromFirst rest }
      rw [hUnparse, List.cons_append,
        Text.beforeFirst_append_fromFirst]

/- The reader gives the token that stands at its place. -/
theorem next_eq_ok_iff
    (before after : Tokenizer)
    (token : Token) :
    before.next = (some (.ok token), after) ↔
      token.StandsBetween before after :=
  ⟨standsBetween_of_next, next_of_standsBetween⟩

theorem next_eq_none_iff
    (tokenizer : Tokenizer) :
    tokenizer.next.1 = none ↔ tokenizer.rest = [] := by
  constructor
  · intro hNext
    unfold next at hNext
    simp only at hNext
    split at hNext
    case h_1 hRest => exact hRest
    case h_5 =>
        split at hNext
        · simp at hNext
        · split at hNext <;> simp at hNext
    all_goals simp at hNext
  · intro hRest
    unfold next
    rw [hRest]

end Tokenizer

end LogLine

------------------------------------------------------------
-- Whole Templates
------------------------------------------------------------

namespace LogLine

namespace Tokenizer

theorem scan_of_next_ok
    {tokenizer following : Tokenizer}
    {token : Token}
    (hNext : tokenizer.next = (some (.ok token), following)) :
    tokenizer.scan =
      ⟨token :: following.scan.tokens,
        following.scan.violation⟩ := by
  rw [scan]
  split
  case h_1 hOther => simp [hNext] at hOther
  case h_2 hOther => simp [hNext] at hOther
  case h_3 read behind hOther =>
      rw [hNext] at hOther
      simp only [Prod.mk.injEq, Option.some.injEq,
        Except.ok.injEq] at hOther
      rw [hOther.1, hOther.2]

theorem scan_of_next_error
    {tokenizer following : Tokenizer}
    {violation : SyntaxError}
    (hNext :
      tokenizer.next = (some (.error violation), following)) :
    tokenizer.scan = ⟨[], some violation⟩ := by
  rw [scan]
  split
  case h_1 hOther => simp [hNext] at hOther
  case h_2 other behind hOther =>
      rw [hNext] at hOther
      simp only [Prod.mk.injEq, Option.some.injEq,
        Except.error.injEq] at hOther
      rw [hOther.1]
  case h_3 hOther => simp [hNext] at hOther

theorem scan_of_rest_eq_nil
    {tokenizer : Tokenizer}
    (hRest : tokenizer.rest = []) :
    tokenizer.scan = ⟨[], none⟩ := by
  have hNone := (next_eq_none_iff tokenizer).mpr hRest
  rw [scan]
  split
  case h_1 => rfl
  case h_2 hOther => simp [hOther] at hNone
  case h_3 hOther => simp [hOther] at hNone

theorem scan_eq_nil_iff
    (tokenizer : Tokenizer) :
    tokenizer.scan = ⟨[], none⟩ ↔ tokenizer.rest = [] := by
  constructor
  · intro hScan
    rw [scan] at hScan
    split at hScan
    case h_1 following hNext =>
        rw [← next_eq_none_iff, hNext]
    case h_2 => simp at hScan
    case h_3 => simp at hScan
  · exact scan_of_rest_eq_nil

theorem scan_eq_cons_iff
    (tokenizer : Tokenizer)
    (token : Token)
    (tokens : List Token)
    (violation : Option SyntaxError) :
    tokenizer.scan = ⟨token :: tokens, violation⟩ ↔
      ∃ following,
        token.StandsBetween tokenizer following ∧
          following.scan = ⟨tokens, violation⟩ := by
  constructor
  · intro hScan
    rw [scan] at hScan
    split at hScan
    case h_1 => simp at hScan
    case h_2 => simp at hScan
    case h_3 read following hNext =>
        simp only [Scan.mk.injEq, List.cons.injEq] at hScan
        rcases hScan with ⟨⟨rfl, hTokens⟩, hViolation⟩
        refine ⟨following, (next_eq_ok_iff _ _ _).mp hNext, ?_⟩
        rw [← hTokens, ← hViolation]
  · rintro ⟨following, hStands, hScan⟩
    rw [scan_of_next_ok ((next_eq_ok_iff _ _ _).mpr hStands),
      hScan]

end Tokenizer

theorem canonical_cons_iff
    (token : Token)
    (rest : List Token) :
    Canonical (token :: rest) ↔
      token.Readable ∧ Canonical rest ∧
        (token.isText = true →
          ∀ second ∈ rest.head?, second.isText = false) := by
  constructor
  · rintro ⟨hReadable, hApart⟩
    rw [List.isChain_cons] at hApart
    refine
      ⟨hReadable token List.mem_cons_self,
        ⟨fun other hMem =>
          hReadable other (List.mem_cons_of_mem token hMem),
          hApart.2⟩, ?_⟩
    intro hText second hHead
    have hNotBoth := hApart.1 second hHead
    simpa [hText] using hNotBoth
  · rintro ⟨hToken, ⟨hReadable, hApart⟩, hNeighbour⟩
    refine ⟨?_, ?_⟩
    · intro other hMem
      rcases List.mem_cons.mp hMem with rfl | hLater
      · exact hToken
      · exact hReadable other hLater
    · rw [List.isChain_cons]
      refine ⟨?_, hApart⟩
      rintro second hHead ⟨hText, hSecond⟩
      rw [hNeighbour hText second hHead] at hSecond
      exact absurd hSecond (by decide)

namespace Tokenizer

/-
  A reader reads a list of tokens to the end exactly if it
  stands in front of their text and the list is canonical
  and counts the bytes right.
-/
theorem scan_eq_iff
    (tokenizer : Tokenizer)
    (tokens : List Token) :
    tokenizer.scan = ⟨tokens, none⟩ ↔
      tokenizer.rest = unparse tokens ∧
      Canonical tokens ∧
      placeTokens tokenizer.offset tokens = tokens := by
  induction tokens generalizing tokenizer with
  | nil =>
      rw [scan_eq_nil_iff]
      constructor
      · intro hRest
        exact ⟨hRest, ⟨by simp, List.IsChain.nil⟩, rfl⟩
      · intro hRest
        exact hRest.1
  | cons token tokens ih =>
      rw [scan_eq_cons_iff, canonical_cons_iff]
      simp only [unparse_cons, placeTokens, List.cons.injEq]
      constructor
      · rintro ⟨following, hStands, hScan⟩
        rcases (ih following).mp hScan with
          ⟨hRest, hCanonical, hPlaced⟩
        refine
          ⟨by rw [hStands.rest, hRest],
            ⟨hStands.readable, hCanonical, ?_⟩,
            hStands.placed, ?_⟩
        · intro hText
          rw [← stopsText_unparse_iff hCanonical.readable,
            ← hRest]
          exact hStands.stops hText
        · rw [← hStands.offset]
          exact hPlaced
      · rintro
          ⟨hRest, ⟨hReadable, hCanonical, hNeighbour⟩,
            hToken, hTokens⟩
        refine
          ⟨⟨tokenizer.offset + token.unparse.byteSize,
            unparse tokens⟩, ?_, ?_⟩
        · refine ⟨hReadable, hRest, rfl, hToken, ?_⟩
          intro hText
          exact (stopsText_unparse_iff hCanonical.readable).mpr
            (hNeighbour hText)
        · rw [ih]
          exact ⟨rfl, hCanonical, hTokens⟩

end Tokenizer

/- Reading succeeds if the scan meets no violation. -/
theorem tokenize_eq_ok_iff_scan
    (template : Text)
    (tokens : List Token) :
    tokenize template = .ok tokens ↔
      scan template = ⟨tokens, none⟩ := by
  unfold tokenize
  rcases scan template with ⟨read, violation⟩
  cases violation with
  | none => simp
  | some violation => simp

/- The tokens of a template are the canonical ones of its text. -/
theorem tokenize_eq_ok_iff
    (template : Text)
    (tokens : List Token) :
    tokenize template = .ok tokens ↔
      template = unparse tokens ∧
      Canonical tokens ∧
      placeTokens 0 tokens = tokens :=
  (tokenize_eq_ok_iff_scan template tokens).trans
    (Tokenizer.scan_eq_iff (Tokenizer.start template) tokens)

end LogLine

------------------------------------------------------------
-- Counted Bytes
------------------------------------------------------------

namespace LogLine

@[simp]
theorem unparse_placeTokens
    (offset : Nat)
    (tokens : List Token) :
    unparse (placeTokens offset tokens) = unparse tokens := by
  induction tokens generalizing offset with
  | nil => rfl
  | cons token rest ih => simp [placeTokens, ih]

theorem placeTokens_placeTokens
    (offset : Nat)
    (tokens : List Token) :
    placeTokens offset (placeTokens offset tokens) =
      placeTokens offset tokens := by
  induction tokens generalizing offset with
  | nil => rfl
  | cons token rest ih =>
      simp only [placeTokens, Token.unparse_placed, ih]
      cases token <;> rfl

theorem canonical_placeTokens
    {tokens : List Token}
    (hCanonical : Canonical tokens)
    (offset : Nat) :
    Canonical (placeTokens offset tokens) := by
  induction tokens generalizing offset with
  | nil => exact hCanonical
  | cons token rest ih =>
      rw [canonical_cons_iff] at hCanonical
      rw [placeTokens, canonical_cons_iff,
        Token.readable_placed, Token.isText_placed]
      refine ⟨hCanonical.1, ih hCanonical.2.1 _, ?_⟩
      intro hText second hHead
      cases rest with
      | nil => simp [placeTokens] at hHead
      | cons following rest =>
          simp only [placeTokens, List.head?_cons,
            Option.mem_def, Option.some.injEq] at hHead
          rw [← hHead, Token.isText_placed]
          exact hCanonical.2.2 hText following rfl

/- Counting changes nothing exactly if the offsets are right. -/
theorem placeTokens_eq_self_iff
    (offset : Nat)
    (tokens : List Token) :
    placeTokens offset tokens = tokens ↔
      ∀ before f after,
        tokens = before ++ .field f :: after →
          f.offset = offset + (unparse before).byteSize := by
  induction tokens generalizing offset with
  | nil => simp [placeTokens]
  | cons token rest ih =>
      rw [placeTokens, List.cons.injEq, ih]
      constructor
      · rintro ⟨hToken, hRest⟩ before f after hTokens
        cases before with
        | nil =>
            rw [List.nil_append, List.cons.injEq] at hTokens
            rw [hTokens.1] at hToken
            simp only [Token.placed, Token.field.injEq]
              at hToken
            rw [← hToken]
            simp
        | cons head before =>
            rw [List.cons_append, List.cons.injEq] at hTokens
            rw [hRest before f after hTokens.2, hTokens.1,
              unparse_cons, Text.byteSize_append,
              Nat.add_assoc]
      · intro hOffsets
        refine ⟨?_, ?_⟩
        · cases token with
          | literal text => rfl
          | field f =>
              have hOffset := hOffsets [] f rest rfl
              simp only [unparse_nil, Text.byteSize_nil,
                Nat.add_zero] at hOffset
              rw [← hOffset]
              rfl
        · intro before f after hRest
          rw [hOffsets (token :: before) f after
            (by rw [hRest]; rfl), unparse_cons,
            Text.byteSize_append, Nat.add_assoc]

theorem offsetsMatch_iff
    (tokens : List Token) :
    OffsetsMatch tokens ↔ placeTokens 0 tokens = tokens := by
  simp [OffsetsMatch, placeTokens_eq_self_iff]

end LogLine

------------------------------------------------------------
-- Joining Text
------------------------------------------------------------

namespace LogLine

namespace Token

/- Put a token in front; pieces of text that meet become one. -/
def joinTo
    (token : Token)
    (tokens : List Token) :
    List Token :=
  match token, tokens with
  | literal first, literal second :: rest =>
      if (literal first).isText && (literal second).isText then
        literal (first ++ second) :: rest
      else
        literal first :: literal second :: rest
  | _, _ => token :: tokens

/- Either two pieces of text meet, or the token stays apart. -/
theorem joinTo_cases
    (token : Token)
    (tokens : List Token) :
    (token.joinTo tokens = token :: tokens ∧
      (token.isText = true →
        ∀ second ∈ tokens.head?, second.isText = false)) ∨
    (∃ first second rest,
      token = literal first ∧
      tokens = literal second :: rest ∧
      (literal first).isText = true ∧
      (literal second).isText = true ∧
      token.joinTo tokens =
        literal (first ++ second) :: rest) := by
  unfold joinTo
  split
  case h_1 first second rest =>
      by_cases hBoth :
          (literal first).isText && (literal second).isText
      · rw [if_pos hBoth]
        rw [Bool.and_eq_true] at hBoth
        exact Or.inr
          ⟨first, second, rest, rfl, rfl, hBoth.1, hBoth.2, rfl⟩
      · rw [if_neg hBoth]
        refine Or.inl ⟨rfl, ?_⟩
        intro hText other hHead
        rw [List.head?_cons, Option.mem_def,
          Option.some.injEq] at hHead
        rw [← hHead]
        simpa [hText] using hBoth
  case h_2 hApart =>
      refine Or.inl ⟨rfl, ?_⟩
      intro hText other hHead
      cases token with
      | field f => simp [isText] at hText
      | literal first =>
          cases tokens with
          | nil => simp at hHead
          | cons second rest =>
              rw [List.head?_cons, Option.mem_def,
                Option.some.injEq] at hHead
              rw [← hHead]
              cases second with
              | field f => rfl
              | literal text =>
                  exact absurd rfl
                    (hApart first text rest rfl)

@[simp]
theorem unparse_joinTo
    (token : Token)
    (tokens : List Token) :
    LogLine.unparse (token.joinTo tokens) =
      token.unparse ++ LogLine.unparse tokens := by
  rcases joinTo_cases token tokens with
    ⟨hEq, -⟩ | ⟨first, second, rest, rfl, rfl, -, -, hEq⟩
  · rw [hEq, unparse_cons]
  · rw [hEq]
    simp [unparse, escapeBraces_append]

theorem canonical_joinTo
    {token : Token}
    {tokens : List Token}
    (hReadable : token.Readable)
    (hCanonical : Canonical tokens) :
    Canonical (token.joinTo tokens) := by
  rcases joinTo_cases token tokens with
    ⟨hEq, hApart⟩ |
      ⟨first, second, rest, rfl, rfl, hFirst, hSecond, hEq⟩
  · rw [hEq, canonical_cons_iff]
    exact ⟨hReadable, hCanonical, hApart⟩
  · rw [hEq, canonical_cons_iff]
    rw [canonical_cons_iff] at hCanonical
    rw [isText_literal_iff] at hFirst
    have hPlain := (isText_literal_iff second).mp hSecond
    refine ⟨Or.inr (Or.inr ⟨?_, ?_⟩), hCanonical.2.1, ?_⟩
    · rcases hReadable with rfl | rfl | ⟨hSome, -⟩
      · simp
      · simp
      · simp [hSome]
    · intro c hMem
      rcases List.mem_append.mp hMem with hLeft | hRight
      · exact hFirst c hLeft
      · exact hPlain c hRight
    · intro _
      exact hCanonical.2.2 hSecond

end Token

/- The tokens with all text that meets in one piece. -/
def joinText
    (tokens : List Token) :
    List Token :=
  tokens.foldr Token.joinTo []

@[simp]
theorem unparse_joinText
    (tokens : List Token) :
    unparse (joinText tokens) = unparse tokens := by
  induction tokens with
  | nil => rfl
  | cons token rest ih =>
      show unparse (token.joinTo (joinText rest)) = _
      rw [Token.unparse_joinTo, ih, unparse_cons]

theorem canonical_joinText
    {tokens : List Token}
    (hReadable : ∀ token ∈ tokens, token.Readable) :
    Canonical (joinText tokens) := by
  induction tokens with
  | nil => exact ⟨by simp [joinText], List.IsChain.nil⟩
  | cons token rest ih =>
      have hRest : Canonical (joinText rest) :=
        ih fun other hMem =>
          hReadable other (List.mem_cons_of_mem token hMem)
      exact Token.canonical_joinTo
        (hReadable token List.mem_cons_self) hRest

/- Tokens that read back do so, with the text between them joined. -/
theorem tokenize_unparse
    {tokens : List Token}
    (hReadable : ∀ token ∈ tokens, token.Readable) :
    tokenize (unparse tokens) =
      .ok (placeTokens 0 (joinText tokens)) := by
  rw [tokenize_eq_ok_iff]
  refine ⟨?_, ?_, placeTokens_placeTokens 0 _⟩
  · rw [unparse_placeTokens, unparse_joinText]
  · exact canonical_placeTokens
      (canonical_joinText hReadable) 0

theorem tokenize_unparse_of_canonical
    {tokens : List Token}
    (hCanonical : Canonical tokens) :
    tokenize (unparse tokens) = .ok (placeTokens 0 tokens) := by
  rw [tokenize_eq_ok_iff]
  exact
    ⟨(unparse_placeTokens 0 tokens).symm,
      canonical_placeTokens hCanonical 0,
      placeTokens_placeTokens 0 tokens⟩

end LogLine

------------------------------------------------------------
-- Fields of What Was Written
------------------------------------------------------------

namespace LogLine

theorem Token.field_mem_joinTo_iff
    (f : Field)
    (token : Token)
    (tokens : List Token) :
    field f ∈ token.joinTo tokens ↔
      field f = token ∨ field f ∈ tokens := by
  rcases token.joinTo_cases tokens with
    ⟨hEq, -⟩ | ⟨first, second, rest, rfl, rfl, -, -, hEq⟩
  · rw [hEq, List.mem_cons]
  · rw [hEq]
    simp

/- Joining text leaves the fields. -/
theorem field_mem_joinText_iff
    (f : Field)
    (tokens : List Token) :
    Token.field f ∈ joinText tokens ↔
      Token.field f ∈ tokens := by
  induction tokens with
  | nil => rfl
  | cons token rest ih =>
      show Token.field f ∈ token.joinTo (joinText rest) ↔ _
      rw [Token.field_mem_joinTo_iff, ih, List.mem_cons]

theorem exists_of_mem_placeTokens
    {offset : Nat}
    {tokens : List Token}
    {token : Token}
    (hMem : token ∈ placeTokens offset tokens) :
    ∃ other ∈ tokens, ∃ position,
      token = other.placed position := by
  induction tokens generalizing offset with
  | nil => cases hMem
  | cons first rest ih =>
      rw [placeTokens] at hMem
      rcases List.mem_cons.mp hMem with hFirst | hLater
      · exact ⟨first, List.mem_cons_self, offset, hFirst⟩
      · rcases ih hLater with ⟨other, hOther, position, hSame⟩
        exact
          ⟨other, List.mem_cons_of_mem first hOther, position,
            hSame⟩

theorem exists_placed_mem_placeTokens
    {tokens : List Token}
    {token : Token}
    (hMem : token ∈ tokens)
    (offset : Nat) :
    ∃ position,
      token.placed position ∈ placeTokens offset tokens := by
  induction tokens generalizing offset with
  | nil => cases hMem
  | cons first rest ih =>
      rw [placeTokens]
      rcases List.mem_cons.mp hMem with rfl | hLater
      · exact ⟨offset, List.mem_cons_self⟩
      · rcases ih hLater (offset + first.unparse.byteSize) with
          ⟨position, hPlaced⟩
        exact ⟨position, List.mem_cons_of_mem _ hPlaced⟩

variable {tokens read : List Token}

/- Up to its place, every field that is read was written. -/
theorem exists_field_of_mem_read
    (hReadable : ∀ token ∈ tokens, token.Readable)
    (hRead : tokenize (unparse tokens) = .ok read)
    {f : Field}
    (hMem : Token.field f ∈ read) :
    ∃ g,
      Token.field g ∈ tokens ∧
        f = { g with offset := f.offset } := by
  rw [tokenize_unparse hReadable] at hRead
  cases hRead
  rcases exists_of_mem_placeTokens hMem with
    ⟨other, hOther, position, hSame⟩
  cases other with
  | literal text => cases hSame
  | field g =>
      cases hSame
      exact ⟨g, (field_mem_joinText_iff g tokens).mp hOther, rfl⟩

/- Up to its place, every field that was written is read. -/
theorem exists_offset_mem_read
    (hReadable : ∀ token ∈ tokens, token.Readable)
    (hRead : tokenize (unparse tokens) = .ok read)
    {f : Field}
    (hMem : Token.field f ∈ tokens) :
    ∃ offset, Token.field { f with offset } ∈ read := by
  rw [tokenize_unparse hReadable] at hRead
  cases hRead
  exact
    exists_placed_mem_placeTokens
      ((field_mem_joinText_iff f tokens).mpr hMem) 0

end LogLine

------------------------------------------------------------
-- Reading and Writing
------------------------------------------------------------

namespace LogLine

instance :
    DecidablePred Canonical :=
  fun tokens =>
    have : DecidableRel fun (first second : Token) =>
        ¬ (first.isText = true ∧ second.isText = true) :=
      fun _ _ => inferInstance
    decidable_of_iff
      ((∀ token ∈ tokens, token.Readable) ∧
        tokens.IsChain fun first second =>
          ¬ (first.isText = true ∧ second.isText = true))
      ⟨fun h => ⟨h.1, h.2⟩, fun h => ⟨h.readable, h.apart⟩⟩

/-
  What is read from a template writes back to it, and every
  canonical list is read from what it writes.
-/
theorem tokenize_inverse_unparse
    (template : Text)
    (tokens : List Token) :
    (tokenize template = .ok tokens →
      unparse tokens = template ∧
      OffsetsMatch tokens ∧
      Canonical tokens) ∧
    (Canonical tokens →
      tokenize (unparse tokens) =
        .ok (placeTokens 0 tokens) ∧
      OffsetsMatch (placeTokens 0 tokens)) := by
  constructor
  · intro hRead
    rcases (tokenize_eq_ok_iff template tokens).mp hRead with
      ⟨rfl, hCanonical, hPlaced⟩
    exact
      ⟨rfl, (offsetsMatch_iff tokens).mpr hPlaced, hCanonical⟩
  · intro hCanonical
    refine ⟨tokenize_unparse_of_canonical hCanonical, ?_⟩
    exact (offsetsMatch_iff _).mpr
      (placeTokens_placeTokens 0 tokens)

/- A brace, an index with a colon, and a spec with a field. -/
theorem tokenize_inverse_unparse_nested_spec :
    let template : Text :=
      "é\x7b\x7b\x7bm[a:b]!r:>\x7bw\x7d\x7d".toList
    let tokens : List Token :=
      [.literal ['é'], .literal ['{'],
        .field ⟨"m[a:b]".toList, some 'r',
          some ">\x7bw\x7d".toList, 4⟩]
    (tokenize template = .ok tokens ∧
      unparse tokens = template ∧ OffsetsMatch tokens) ∧
    (Canonical tokens ∧
      tokenize (unparse tokens) =
        .ok (placeTokens 0 tokens)) := by
  intro template tokens
  have hCanonical : Canonical tokens := by decide
  have hRead : tokenize template = .ok tokens := by
    rw [tokenize_eq_ok_iff]
    exact ⟨by decide, hCanonical, by decide⟩
  rcases tokenize_inverse_unparse template tokens with
    ⟨hWrites, hReads⟩
  exact
    ⟨⟨hRead, (hWrites hRead).1, (hWrites hRead).2.1⟩,
      hCanonical, (hReads hCanonical).1⟩

end LogLine
