import LogLine.Template.Token

/-
  Reading the tokens of a template from left to right.

  Key definitions include:
    * `LogLine.Tokenizer`
    * `LogLine.Tokenizer.next`
    * `LogLine.Scan`
    * `LogLine.scan`
    * `LogLine.tokenize`

  Key theorems include:
    * `LogLine.splitName_append`
    * `LogLine.splitBody_eq_some`
    * `LogLine.Tokenizer.next_shorter`
    * `LogLine.spec_length_lt`
-/

------------------------------------------------------------
-- The Body of a Field
------------------------------------------------------------

namespace LogLine

/-
  Split a field body after its name.  The name ends in front
  of the first `!` or `:` that does not stand in an index;
  an index runs from `[` through the next `]`.
-/
def splitName
    (inIndex : Bool) :
    Text → Text × Text
  | [] => ([], [])
  | c :: rest =>
      if inIndex then
        let (name, tail) := splitName (c != ']') rest
        (c :: name, tail)
      else if c = '!' ∨ c = ':' then
        ([], c :: rest)
      else
        let (name, tail) := splitName (c == '[') rest
        (c :: name, tail)

/- Splitting loses nothing. -/
theorem splitName_append
    (inIndex : Bool)
    (body : Text) :
    (splitName inIndex body).1 ++ (splitName inIndex body).2 =
      body := by
  induction body generalizing inIndex with
  | nil => rfl
  | cons c rest ih =>
      rw [splitName]
      split
      · simp [ih]
      · split
        · rfl
        · simp [ih]

/-
  Split behind the brace that closes a field.  `depth` counts
  the braces opened inside the field and not closed yet.
-/
def splitBody
    (depth : Nat) :
    Text → Option (Text × Text)
  | [] => none
  | '{' :: rest =>
      (splitBody (depth + 1) rest).map
        (fun (body, after) => ('{' :: body, after))
  | '}' :: rest =>
      match depth with
      | 0 => some ([], rest)
      | depth + 1 =>
          (splitBody depth rest).map
            (fun (body, after) => ('}' :: body, after))
  | c :: rest =>
      (splitBody depth rest).map
        (fun (body, after) => (c :: body, after))

/- The body, its closing brace and the rest make up the text. -/
theorem splitBody_eq_some
    {depth : Nat}
    {text body after : Text}
    (hSplit : splitBody depth text = some (body, after)) :
    text = body ++ '}' :: after := by
  fun_induction splitBody depth text
    generalizing body after with
  | case1 => simp at hSplit
  | case2 depth rest ih =>
      obtain ⟨⟨inner, tail⟩, hInner, hEq⟩ :=
        Option.map_eq_some_iff.mp hSplit
      simp only [Prod.mk.injEq] at hEq
      obtain ⟨rfl, rfl⟩ := hEq
      rw [ih hInner]
      rfl
  | case3 rest =>
      simp only [Option.some.injEq, Prod.mk.injEq] at hSplit
      obtain ⟨rfl, rfl⟩ := hSplit
      rfl
  | case4 depth rest ih =>
      obtain ⟨⟨inner, tail⟩, hInner, hEq⟩ :=
        Option.map_eq_some_iff.mp hSplit
      simp only [Prod.mk.injEq] at hEq
      obtain ⟨rfl, rfl⟩ := hEq
      rw [ih hInner]
      rfl
  | case5 depth c rest _ _ ih =>
      obtain ⟨⟨inner, tail⟩, hInner, hEq⟩ :=
        Option.map_eq_some_iff.mp hSplit
      simp only [Prod.mk.injEq] at hEq
      obtain ⟨rfl, rfl⟩ := hEq
      rw [ih hInner]
      rfl

/-
  Read a field from its body.  `offset` counts the bytes in
  front of the opening brace.
-/
def Field.ofBody
    (offset : Nat)
    (body : Text) :
    Except SyntaxError Field :=
  let (name, tail) := splitName false body
  let marker := offset + 1 + name.byteSize
  match tail with
  | [] => .ok ⟨name, none, none, offset⟩
  | '!' :: [] => .error (.missingConversion marker)
  | '!' :: c :: [] => .ok ⟨name, some c, none, offset⟩
  | '!' :: c :: ':' :: spec =>
      .ok ⟨name, some c, some spec, offset⟩
  | '!' :: c :: _ :: _ =>
      .error (.conversionNotLast (marker + 1 + c.utf8Size))
  | _ :: spec => .ok ⟨name, none, some spec, offset⟩

/- A spec is shorter than the body that it is read from. -/
theorem Field.spec_length_lt_of_ofBody
    {offset : Nat}
    {body spec : Text}
    {field : Field}
    (hBody : Field.ofBody offset body = .ok field)
    (hSpec : field.spec = some spec) :
    spec.length < body.length := by
  have hAppend :=
    congrArg List.length (splitName_append false body)
  simp only [List.length_append] at hAppend
  unfold Field.ofBody at hBody
  split at hBody
  rename_i name tail hSplit
  rw [hSplit] at hAppend
  simp only at hBody hAppend
  split at hBody <;> simp_all <;> subst hBody <;>
    simp_all <;> omega

end LogLine

------------------------------------------------------------
-- One Token at a Time
------------------------------------------------------------

namespace LogLine

/-
  A reader in a template: the bytes already read, and the
  text still to read.  After an error nothing is left.
-/
structure Tokenizer where
  offset : Nat
  rest : Text
deriving DecidableEq, Repr

def isBrace
    (c : Char) :
    Bool :=
  c == '{' || c == '}'

namespace Tokenizer

/- A reader in front of a whole template. -/
def start
    (template : Text) :
    Tokenizer :=
  ⟨0, template⟩

/- A reader that has failed gives nothing more. -/
def failed
    (tokenizer : Tokenizer) :
    Tokenizer :=
  ⟨tokenizer.offset, []⟩

/- The next token or violation, and the reader behind it. -/
def next
    (tokenizer : Tokenizer) :
    Option (Except SyntaxError Token) × Tokenizer :=
  let offset := tokenizer.offset
  match tokenizer.rest with
  | [] => (none, tokenizer)
  | '{' :: '{' :: rest =>
      (some (.ok (.literal ['{'])), ⟨offset + 2, rest⟩)
  | '}' :: '}' :: rest =>
      (some (.ok (.literal ['}'])), ⟨offset + 2, rest⟩)
  | '}' :: _ =>
      (some (.error (.unmatchedClose offset)), tokenizer.failed)
  | '{' :: rest =>
      match splitBody 0 rest with
      | none =>
          (some (.error (.unclosedField offset)),
            tokenizer.failed)
      | some (body, after) =>
          match Field.ofBody offset body with
          | .error violation =>
              (some (.error violation), tokenizer.failed)
          | .ok field =>
              (some (.ok (.field field)),
                ⟨offset + body.byteSize + 2, after⟩)
  | c :: rest =>
      let text := c :: Text.beforeFirst isBrace rest
      (some (.ok (.literal text)),
        ⟨offset + Text.byteSize text,
          Text.fromFirst isBrace rest⟩)

/- A step that gives something shortens what is left. -/
theorem next_shorter
    {tokenizer following : Tokenizer}
    {item : Except SyntaxError Token}
    (hNext : tokenizer.next = (some item, following)) :
    following.rest.length < tokenizer.rest.length := by
  unfold next at hNext
  simp only at hNext
  split at hNext
  case h_1 => simp at hNext
  case h_2 rest hRest =>
      simp only [Prod.mk.injEq] at hNext
      rw [hRest, ← hNext.2]
      simp only [List.length_cons]
      omega
  case h_3 rest hRest =>
      simp only [Prod.mk.injEq] at hNext
      rw [hRest, ← hNext.2]
      simp only [List.length_cons]
      omega
  case h_4 rest _ hRest =>
      simp only [Prod.mk.injEq] at hNext
      rw [hRest, ← hNext.2]
      simp [failed]
  case h_5 rest _ hRest =>
      split at hNext
      · simp only [Prod.mk.injEq] at hNext
        rw [hRest, ← hNext.2]
        simp [failed]
      · rename_i body after hSplit
        have hText := splitBody_eq_some hSplit
        split at hNext
        · simp only [Prod.mk.injEq] at hNext
          rw [hRest, ← hNext.2]
          simp [failed]
        · simp only [Prod.mk.injEq] at hNext
          rw [hRest, ← hNext.2, hText]
          simp only [List.length_cons, List.length_append]
          omega
  case h_6 c rest _ _ _ _ hRest =>
      simp only [Prod.mk.injEq] at hNext
      rw [hRest, ← hNext.2]
      have hLength := Text.length_fromFirst_le isBrace rest
      simp only [List.length_cons]
      omega

/- A spec is shorter than the text that its field is read from. -/
theorem spec_length_lt_of_next
    {tokenizer following : Tokenizer}
    {field : Field}
    {spec : Text}
    (hNext :
      tokenizer.next = (some (.ok (.field field)), following))
    (hSpec : field.spec = some spec) :
    spec.length < tokenizer.rest.length := by
  unfold next at hNext
  simp only at hNext
  split at hNext
  case h_5 rest _ hRest =>
      split at hNext
      · simp at hNext
      · rename_i body after hSplit
        have hText := splitBody_eq_some hSplit
        split at hNext
        · simp at hNext
        · rename_i read hBody
          simp only [Prod.mk.injEq, Option.some.injEq,
            Except.ok.injEq, Token.field.injEq] at hNext
          rw [hNext.1] at hBody
          have hLess := Field.spec_length_lt_of_ofBody hBody hSpec
          rw [hRest, hText]
          simp only [List.length_cons, List.length_append]
          omega
  all_goals simp at hNext

end Tokenizer

end LogLine

------------------------------------------------------------
-- Whole Templates
------------------------------------------------------------

namespace LogLine

/-
  What reading a template gives: the tokens in front of the
  first violation, and that violation if there is one.
-/
structure Scan where
  tokens : List Token
  violation : Option SyntaxError
deriving DecidableEq, Repr

namespace Tokenizer

/- Read until the end or the first violation. -/
def scan
    (tokenizer : Tokenizer) :
    Scan :=
  match _hNext : tokenizer.next with
  | (none, _) => ⟨[], none⟩
  | (some (.error violation), _) => ⟨[], some violation⟩
  | (some (.ok token), following) =>
      let remaining := following.scan
      ⟨token :: remaining.tokens, remaining.violation⟩
termination_by tokenizer.rest.length
decreasing_by exact next_shorter (by assumption)

/- Every spec read is shorter than the text it is read from. -/
theorem spec_length_lt_of_scan
    {tokenizer : Tokenizer}
    {field : Field}
    {spec : Text}
    (hMem : Token.field field ∈ tokenizer.scan.tokens)
    (hSpec : field.spec = some spec) :
    spec.length < tokenizer.rest.length := by
  fun_induction scan tokenizer with
  | case1 => simp at hMem
  | case2 => simp at hMem
  | case3 tokenizer token following hNext _ ih =>
      rcases List.mem_cons.mp hMem with rfl | hLater
      · exact spec_length_lt_of_next hNext hSpec
      · exact Nat.lt_trans (ih hLater) (next_shorter hNext)

end Tokenizer

/- Read a whole template. -/
def scan
    (template : Text) :
    Scan :=
  (Tokenizer.start template).scan

/- The tokens of a template, or its first violation. -/
def tokenize
    (template : Text) :
    Except SyntaxError (List Token) :=
  match (scan template).violation with
  | none => .ok (scan template).tokens
  | some violation => .error violation

/- Every spec of a template is shorter than the template. -/
theorem spec_length_lt
    {template : Text}
    {field : Field}
    {spec : Text}
    (hMem : Token.field field ∈ (scan template).tokens)
    (hSpec : field.spec = some spec) :
    spec.length < template.length :=
  Tokenizer.spec_length_lt_of_scan hMem hSpec

end LogLine
