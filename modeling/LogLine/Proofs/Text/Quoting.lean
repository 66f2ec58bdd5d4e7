import LogLine.Value
import LogLine.Proofs.Text.Digits
import Mathlib.Tactic.SplitIfs

/-
  Quoted text is read back as it was, and shows nothing that
  could move the cursor or end the quotation.

  Key definitions include:
    * `LogLine.Escaped`
    * `LogLine.Charset.Shows`

  Key theorems include:
    * `LogLine.unescaped?_quotedChar`
    * `LogLine.Text.unquoted?_quoted`
    * `LogLine.quoting_is_reversible_and_safe`
-/

------------------------------------------------------------
-- Escaped Text
------------------------------------------------------------

namespace LogLine

/-
  Text in which a backslash takes the next character with it,
  and in which the quote stands behind such a backslash only.
-/
inductive Escaped
    (quote : Char) :
    Text → Prop where
  | nil :
      Escaped quote []
  | plain
      {c : Char}
      {rest : Text}
      (hBackslash : c ≠ '\\')
      (hQuote : c ≠ quote)
      (hRest : Escaped quote rest) :
      Escaped quote (c :: rest)
  | escape
      (c : Char)
      {rest : Text}
      (hRest : Escaped quote rest) :
      Escaped quote ('\\' :: c :: rest)

namespace Escaped

variable {quote : Char}

theorem append
    {first second : Text}
    (hFirst : Escaped quote first)
    (hSecond : Escaped quote second) :
    Escaped quote (first ++ second) := by
  induction hFirst with
  | nil => exact hSecond
  | plain hBackslash hQuote hRest ih =>
      exact .plain hBackslash hQuote ih
  | escape c hRest ih => exact .escape c ih

/- Text without quotes and backslashes is escaped as it is. -/
theorem of_plain
    {text : Text}
    (hPlain : ∀ c ∈ text, c ≠ '\\' ∧ c ≠ quote) :
    Escaped quote text := by
  induction text with
  | nil => exact .nil
  | cons c rest ih =>
      rw [List.forall_mem_cons] at hPlain
      exact .plain hPlain.1.1 hPlain.1.2 (ih hPlain.2)

end Escaped

/- The quotes that a text is put between. -/
def IsQuote
    (c : Char) : Prop :=
  c = '\'' ∨ c = '"'

theorem Text.isQuote_delimiter
    (text : Text) :
    IsQuote text.delimiter := by
  unfold delimiter
  split
  · exact Or.inr rfl
  · exact Or.inl rfl

end LogLine

------------------------------------------------------------
-- Characters That Are Shown
------------------------------------------------------------

namespace LogLine

/-
  A character that stands in a quotation: it is no control
  character, and one of ASCII if no others are allowed.
-/
structure Charset.Shows
    (charset : Charset)
    (c : Char) : Prop where
  space_le : 0x20 ≤ c.toNat
  ne_delete : c.toNat ≠ 0x7f
  ascii : charset = .ascii → c.toNat < 0x80

theorem Charset.shows_iff
    (charset : Charset)
    (c : Char) :
    charset.Shows c ↔
      0x20 ≤ c.toNat ∧ c.toNat ≠ 0x7f ∧
        (charset = .ascii → c.toNat < 0x80) :=
  ⟨fun h => ⟨h.space_le, h.ne_delete, h.ascii⟩,
    fun h => ⟨h.1, h.2.1, h.2.2⟩⟩

instance
    (charset : Charset) :
    DecidablePred charset.Shows :=
  fun c => decidable_of_iff _ (charset.shows_iff c).symm

/- The characters of escapes are all shown. -/
theorem Charset.shows_of_toNat
    {c : Char}
    (hLow : 0x20 ≤ c.toNat)
    (hHigh : c.toNat < 0x7f)
    (charset : Charset) :
    charset.Shows c :=
  ⟨hLow, by omega, fun _ => by omega⟩

theorem IsQuote.shows
    {c : Char}
    (hQuote : IsQuote c)
    (charset : Charset) :
    charset.Shows c := by
  rcases hQuote with rfl | rfl
  · exact Charset.shows_of_toNat (by decide) (by decide) charset
  · exact Charset.shows_of_toNat (by decide) (by decide) charset

/- Hexadecimal digits, also the zeros in front, are shown. -/
theorem digit_of_mem_zeroPadded
    {width n : Nat}
    {c : Char}
    (hMem : c ∈ Text.zeroPadded width (Nat.toDigits 16 n)) :
    ∃ d < 16, c = Nat.digitChar d := by
  unfold Text.zeroPadded at hMem
  rcases List.mem_append.mp hMem with hZero | hDigit
  · exact ⟨0, by decide, (List.mem_replicate.mp hZero).2⟩
  · exact exists_digitChar_of_mem_toDigits (by decide) hDigit

theorem toNat_digitChar_bounds :
    ∀ d < 16,
      0x30 ≤ (Nat.digitChar d).toNat ∧
      (Nat.digitChar d).toNat ≤ 0x66 ∧
      Nat.digitChar d ≠ '\\' := by
  decide

end LogLine

------------------------------------------------------------
-- Reading Escapes Back
------------------------------------------------------------

namespace LogLine

/- The letters that begin a code point, and its digits. -/
def hexForms : List (Char × Nat) :=
  [('x', 2), ('u', 4), ('U', 8)]

theorem unescaped?_hexDigits
    (delimiter : Char)
    {letter : Char}
    {width : Nat}
    (hForm : (letter, width) ∈ hexForms)
    {digits : Text}
    (hLength : digits.length = width)
    {c : Char}
    (hChar : hexChar? digits = some c)
    (rest : Text) :
    unescaped? delimiter ('\\' :: letter :: (digits ++ rest)) =
      (unescaped? delimiter rest).map (c :: ·) := by
  simp only [hexForms, List.mem_cons, Prod.mk.injEq,
    List.not_mem_nil, or_false] at hForm
  rcases hForm with ⟨rfl, rfl⟩ | ⟨rfl, rfl⟩ | ⟨rfl, rfl⟩
  · match digits, hLength with
    | [a, b], _ =>
        simp only [List.cons_append, List.nil_append, unescaped?,
          hChar]
        cases unescaped? delimiter rest <;> rfl
  · match digits, hLength with
    | [a, b, c, d], _ =>
        simp only [List.cons_append, List.nil_append, unescaped?,
          hChar]
        cases unescaped? delimiter rest <;> rfl
  · match digits, hLength with
    | [a, b, c, d, e, f, g, h], _ =>
        simp only [List.cons_append, List.nil_append, unescaped?,
          hChar]
        cases unescaped? delimiter rest <;> rfl

end LogLine

------------------------------------------------------------
-- One Character at a Time
------------------------------------------------------------

namespace LogLine

/- The letters for the control characters that have one. -/
def controlLetters : List (Char × Char) :=
  [('n', '\n'), ('r', '\r'), ('t', '\t')]

/- How a character can stand between two delimiters. -/
inductive QuotedForm
    (charset : Charset)
    (delimiter c : Char) :
    Text → Prop where
  | plain
      (hBackslash : c ≠ '\\')
      (hDelimiter : c ≠ delimiter)
      (hShown : charset.Shows c) :
      QuotedForm charset delimiter c [c]
  | itself
      (hMarked : c = '\\' ∨ c = delimiter) :
      QuotedForm charset delimiter c ['\\', c]
  | control
      {letter : Char}
      (hLetter : (letter, c) ∈ controlLetters) :
      QuotedForm charset delimiter c ['\\', letter]
  | codePoint
      {letter : Char}
      {width : Nat}
      (hForm : (letter, width) ∈ hexForms)
      (hFits : c.toNat < 16 ^ width) :
      QuotedForm charset delimiter c (hexEscape letter width c)

theorem quotedForm_quotedChar
    (charset : Charset)
    (delimiter c : Char) :
    QuotedForm charset delimiter c
      (quotedChar charset delimiter c) := by
  unfold quotedChar
  split_ifs with hBackslash hNewline hReturn hTab hDelimiter
    hControl hForeign hByte hShort
  · rw [hBackslash]
    exact .itself (Or.inl rfl)
  · rw [hNewline]
    exact .control (by decide)
  · rw [hReturn]
    exact .control (by decide)
  · rw [hTab]
    exact .control (by decide)
  · exact .itself (Or.inr hDelimiter)
  · exact .codePoint (by decide) (by omega)
  · exact .codePoint (by decide) (by omega)
  · exact .codePoint (by decide) (by omega)
  · have hValid : c.toNat.isValidChar := c.valid
    unfold Nat.isValidChar at hValid
    exact .codePoint (by decide) (by omega)
  · refine .plain hBackslash hDelimiter ⟨?_, ?_, ?_⟩
    · omega
    · omega
    · intro hAscii
      apply Nat.lt_of_not_le
      intro hLarge
      exact hForeign ⟨hAscii, hLarge⟩

variable {charset : Charset}
variable {delimiter c : Char}
variable {form : Text}

/- Whatever form a character has, it is read back from it. -/
theorem QuotedForm.unescaped?_append
    (hForm : QuotedForm charset delimiter c form)
    (hQuote : IsQuote delimiter)
    (rest : Text) :
    unescaped? delimiter (form ++ rest) =
      (unescaped? delimiter rest).map (c :: ·) := by
  cases hForm with
  | plain hBackslash hDelimiter hShown =>
      rw [List.singleton_append, unescaped?, if_neg hDelimiter]
      all_goals
        intros
        exact hBackslash (by assumption)
  | itself hMarked =>
      rcases hMarked with rfl | rfl
      · rw [List.cons_append, List.singleton_append, unescaped?,
          if_pos (Or.inl rfl)]
        all_goals simp
      · rcases hQuote with rfl | rfl
        · rw [List.cons_append, List.singleton_append, unescaped?,
            if_pos (Or.inr rfl)]
          all_goals simp
        · rw [List.cons_append, List.singleton_append, unescaped?,
            if_pos (Or.inr rfl)]
          all_goals simp
  | control hLetter =>
      simp only [controlLetters, List.mem_cons, Prod.mk.injEq,
        List.not_mem_nil, or_false] at hLetter
      rcases hLetter with ⟨rfl, rfl⟩ | ⟨rfl, rfl⟩ | ⟨rfl, rfl⟩
      · rfl
      · rfl
      · rfl
  | @codePoint letter width hForm hFits =>
      have hWidth : 0 < width := by
        revert hForm
        simp only [hexForms, List.mem_cons, Prod.mk.injEq]
        rintro (⟨-, rfl⟩ | ⟨-, rfl⟩ | ⟨-, rfl⟩ | hNone)
        · decide
        · decide
        · decide
        · cases hNone
      exact
        unescaped?_hexDigits delimiter hForm
          (length_zeroPadded_toDigits (by decide) hWidth hFits)
          (hexChar?_zeroPadded width c) rest

theorem QuotedForm.escaped
    (hForm : QuotedForm charset delimiter c form)
    (hQuote : IsQuote delimiter) :
    Escaped delimiter form := by
  cases hForm with
  | plain hBackslash hDelimiter hShown =>
      exact .plain hBackslash hDelimiter .nil
  | itself hMarked => exact .escape c .nil
  | control hLetter => exact .escape _ .nil
  | codePoint hForm hFits =>
      refine .escape _ (Escaped.of_plain ?_)
      intro d hMem
      rcases digit_of_mem_zeroPadded hMem with ⟨n, hSmall, rfl⟩
      rcases toNat_digitChar_bounds n hSmall with
        ⟨hLow, -, hBackslash⟩
      refine ⟨hBackslash, ?_⟩
      intro hSame
      rw [hSame] at hLow
      rcases hQuote with rfl | rfl
      · exact absurd hLow (by decide)
      · exact absurd hLow (by decide)

theorem QuotedForm.shows
    (hForm : QuotedForm charset delimiter c form)
    (hQuote : IsQuote delimiter) :
    ∀ d ∈ form, charset.Shows d := by
  have hBackslash : charset.Shows '\\' :=
    Charset.shows_of_toNat (by decide) (by decide) charset
  cases hForm with
  | plain hBackslash hDelimiter hShown =>
      exact List.forall_mem_singleton.mpr hShown
  | itself hMarked =>
      rw [List.forall_mem_cons, List.forall_mem_singleton]
      refine ⟨hBackslash, ?_⟩
      rcases hMarked with rfl | rfl
      · exact hBackslash
      · exact hQuote.shows charset
  | @control letter hLetter =>
      have hLetters :
          ∀ entry ∈ controlLetters,
            0x20 ≤ entry.1.toNat ∧ entry.1.toNat < 0x7f := by
        decide
      rw [List.forall_mem_cons, List.forall_mem_singleton]
      rcases hLetters _ hLetter with ⟨hLow, hHigh⟩
      exact
        ⟨hBackslash, Charset.shows_of_toNat hLow hHigh charset⟩
  | @codePoint letter width hForm hFits =>
      have hLetters :
          ∀ entry ∈ hexForms,
            0x20 ≤ entry.1.toNat ∧ entry.1.toNat < 0x7f := by
        decide
      rcases hLetters _ hForm with ⟨hLow, hHigh⟩
      unfold hexEscape
      rw [List.forall_mem_cons, List.forall_mem_cons]
      refine
        ⟨hBackslash, Charset.shows_of_toNat hLow hHigh charset,
          ?_⟩
      intro d hMem
      rcases digit_of_mem_zeroPadded hMem with ⟨n, hSmall, rfl⟩
      rcases toNat_digitChar_bounds n hSmall with
        ⟨hLeast, hGreatest, -⟩
      exact
        Charset.shows_of_toNat (by omega) (by omega) charset

end LogLine

------------------------------------------------------------
-- Whole Texts
------------------------------------------------------------

namespace LogLine

namespace Text

/- What stands between the delimiters of a quotation. -/
def quotedBody
    (charset : Charset)
    (text : Text) :
    Text :=
  text.flatMap (quotedChar charset text.delimiter)

theorem quoted_eq
    (charset : Charset)
    (text : Text) :
    text.quoted charset =
      text.delimiter ::
        (text.quotedBody charset ++ [text.delimiter]) :=
  rfl

/- The reader takes one character after the other, then the quote. -/
theorem unescaped?_flatMap_quotedChar
    (charset : Charset)
    {delimiter : Char}
    (hQuote : IsQuote delimiter)
    (text : Text) :
    unescaped? delimiter
        (text.flatMap (quotedChar charset delimiter) ++
          [delimiter]) =
      some text := by
  induction text with
  | nil =>
      rcases hQuote with rfl | rfl
      · rfl
      · rfl
  | cons c rest ih =>
      rw [List.flatMap_cons, List.append_assoc,
        (quotedForm_quotedChar charset delimiter c).unescaped?_append
          hQuote,
        ih]
      rfl

theorem unquoted?_quoted
    (charset : Charset)
    (text : Text) :
    unquoted? (text.quoted charset) = some text := by
  have hQuote := text.isQuote_delimiter
  rw [quoted_eq, unquoted?]
  exact
    (if_pos hQuote).trans
      (unescaped?_flatMap_quotedChar charset hQuote text)

/- Between its delimiters a quotation is escaped. -/
theorem escaped_quotedBody
    (charset : Charset)
    (text : Text) :
    Escaped text.delimiter (text.quotedBody charset) := by
  have hQuote := text.isQuote_delimiter
  unfold quotedBody
  generalize text.delimiter = delimiter at hQuote
  induction text with
  | nil => exact .nil
  | cons c rest ih =>
      rw [List.flatMap_cons]
      exact
        ((quotedForm_quotedChar charset delimiter c).escaped
          hQuote).append ih

theorem shows_of_mem_quoted
    {charset : Charset}
    {text : Text}
    {c : Char}
    (hMem : c ∈ text.quoted charset) :
    charset.Shows c := by
  have hQuote := text.isQuote_delimiter
  rw [quoted_eq, List.mem_cons, List.mem_append,
    List.mem_singleton] at hMem
  rcases hMem with rfl | hBody | rfl
  · exact hQuote.shows charset
  · rcases List.mem_flatMap.mp hBody with ⟨d, -, hChar⟩
    exact
      (quotedForm_quotedChar charset text.delimiter d).shows
        hQuote c hChar
  · exact hQuote.shows charset

end Text

/-
  A quoted text is read back as the text that was quoted, so
  no two texts are quoted alike.  It stands between two equal
  quotes that occur in it behind a backslash only, and holds
  no control characters, nor any but those of ASCII if that
  is asked for.
-/
theorem quoting_is_reversible_and_safe
    (charset : Charset)
    (text : Text) :
    Text.unquoted? ((Value.str text).quotedIn charset) =
        some text ∧
      (∀ (otherCharset : Charset) (other : Text),
        (Value.str other).quotedIn otherCharset =
          (Value.str text).quotedIn charset →
        other = text) ∧
      (∃ quote inner,
        (quote = '\'' ∨ quote = '"') ∧
        (Value.str text).quotedIn charset =
          quote :: (inner ++ [quote]) ∧
        Escaped quote inner) ∧
      (∀ c ∈ (Value.str text).quotedIn charset,
        0x20 ≤ c.toNat ∧ c.toNat ≠ 0x7f) ∧
      (charset = .ascii →
        ∀ c ∈ (Value.str text).quotedIn charset,
          c.toNat < 0x80) := by
  refine ⟨text.unquoted?_quoted charset, ?_, ?_, ?_, ?_⟩
  · intro otherCharset other hSame
    have hRead := congrArg Text.unquoted? hSame
    have hOther := other.unquoted?_quoted otherCharset
    have hText := text.unquoted?_quoted charset
    exact Option.some.inj (hOther.symm.trans (hRead.trans hText))
  · exact
      ⟨text.delimiter, text.quotedBody charset,
        text.isQuote_delimiter, text.quoted_eq charset,
        text.escaped_quotedBody charset⟩
  · intro c hMem
    have hShown := Text.shows_of_mem_quoted hMem
    exact ⟨hShown.space_le, hShown.ne_delete⟩
  · intro hAscii c hMem
    exact (Text.shows_of_mem_quoted hMem).ascii hAscii

/- A single quote, an arrow and an escape character. -/
theorem quoting_is_reversible_and_safe_of_quote :
    (Value.str "it's →\x1b".toList).quotedIn .ascii =
        "\"it's \\u2192\\x1b\"".toList ∧
      (∀ c ∈ "\"it's \\u2192\\x1b\"".toList,
        c.toNat < 0x80) ∧
      ∀ other,
        (Value.str other).quotedIn .unicode =
          (Value.str "it's →\x1b".toList).quotedIn .ascii →
        other = "it's →\x1b".toList := by
  have hQuoted :
      (Value.str "it's →\x1b".toList).quotedIn .ascii =
        "\"it's \\u2192\\x1b\"".toList := by
    decide
  rcases quoting_is_reversible_and_safe .ascii
      "it's →\x1b".toList with
    ⟨-, hAlike, -, -, hAscii⟩
  refine ⟨hQuoted, ?_, hAlike .unicode⟩
  rw [← hQuoted]
  exact hAscii rfl

end LogLine
