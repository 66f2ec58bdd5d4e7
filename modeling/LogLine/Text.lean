/-
  Text as the library handles it: a finite list of
  characters, so that every rule about text is a recursion
  on a list.

  Key definitions include:
    * `LogLine.Text`
    * `LogLine.Text.byteSize`
    * `LogLine.Text.beforeFirst`
    * `LogLine.Text.fromFirst`
    * `LogLine.Text.joined`
    * `LogLine.Text.ofInt`

  Key theorems include:
    * `LogLine.Text.byteSize_append`
    * `LogLine.Text.beforeFirst_append_fromFirst`
    * `LogLine.Text.length_fromFirst_le`
-/

------------------------------------------------------------
-- Texts
------------------------------------------------------------

namespace LogLine

/- A text is its list of characters, first to last. -/
abbrev Text :=
  List Char

namespace Text

/- To decide about all characters of a text, run through it. -/
instance decidableForallMem
    (holds : Char → Prop)
    [DecidablePred holds]
    (text : Text) :
    Decidable (∀ c ∈ text, holds c) :=
  List.decidableBAll holds text

/- A text is looked for in a list by comparing with each. -/
instance decidableMem
    (text : Text)
    (texts : List Text) :
    Decidable (text ∈ texts) :=
  inferInstance

/- The number of bytes that a text takes in UTF-8. -/
def byteSize : Text → Nat
  | [] => 0
  | c :: rest => c.utf8Size + byteSize rest

@[simp]
theorem byteSize_nil :
    byteSize [] = 0 :=
  rfl

@[simp]
theorem byteSize_cons
    (c : Char)
    (rest : Text) :
    byteSize (c :: rest) = c.utf8Size + byteSize rest :=
  rfl

@[simp]
theorem byteSize_append
    (first second : Text) :
    byteSize (first ++ second) =
      byteSize first + byteSize second := by
  induction first with
  | nil => simp
  | cons c rest ih => simp [ih, Nat.add_assoc]

/- A character takes at least one byte. -/
theorem length_le_byteSize
    (text : Text) :
    text.length ≤ byteSize text := by
  induction text with
  | nil => simp
  | cons c rest ih =>
      have hPos := c.utf8Size_pos
      simp only [List.length_cons, byteSize_cons]
      omega

end Text

end LogLine

------------------------------------------------------------
-- Cutting at the First Match
------------------------------------------------------------

namespace LogLine

namespace Text

/- The longest beginning in which no character passes `stop`. -/
def beforeFirst
    (stop : Char → Bool)
    (text : Text) :
    Text :=
  text.takeWhile (fun c => !stop c)

/- What follows `beforeFirst`; its first character, if any,
   passes `stop`. -/
def fromFirst
    (stop : Char → Bool)
    (text : Text) :
    Text :=
  text.dropWhile (fun c => !stop c)

@[simp]
theorem beforeFirst_append_fromFirst
    (stop : Char → Bool)
    (text : Text) :
    beforeFirst stop text ++ fromFirst stop text = text :=
  List.takeWhile_append_dropWhile

theorem length_fromFirst_le
    (stop : Char → Bool)
    (text : Text) :
    (fromFirst stop text).length ≤ text.length := by
  have hLength :=
    congrArg List.length
      (beforeFirst_append_fromFirst stop text)
  simp only [List.length_append] at hLength
  omega

theorem stop_eq_false_of_mem_beforeFirst
    {stop : Char → Bool}
    {text : Text}
    {c : Char}
    (hMem : c ∈ beforeFirst stop text) :
    stop c = false := by
  have hAll :=
    List.all_eq_true.mp
      (List.all_takeWhile
        (p := fun c => !stop c) (l := text))
      c hMem
  simpa using hAll

end Text

end LogLine

------------------------------------------------------------
-- Building Texts
------------------------------------------------------------

namespace LogLine

namespace Text

/- The texts in order with `separator` between neighbours. -/
def joined
    (separator : Text)
    (texts : List Text) :
    Text :=
  (texts.intersperse separator).flatten

/- A natural number in decimal. -/
def ofNat
    (n : Nat) :
    Text :=
  Nat.toDigits 10 n

/- An integer in decimal, with `-` in front of a negative one. -/
def ofInt
    (n : Int) :
    Text :=
  if n < 0 then
    '-' :: ofNat n.natAbs
  else
    ofNat n.natAbs

/- `digits` filled up on the left with zeros to `width`. -/
def zeroPadded
    (width : Nat)
    (digits : Text) :
    Text :=
  List.replicate (width - digits.length) '0' ++ digits

/- The number written by ASCII digits. -/
def digitsValue
    (digits : Text) :
    Nat :=
  Nat.ofDigitChars 10 digits 0

/- ASCII letters in upper case, all else unchanged. -/
def upperAscii
    (text : Text) :
    Text :=
  text.map Char.toUpper

/- Whether the text ends in `c`. -/
def endsIn
    (c : Char)
    (text : Text) :
    Bool :=
  text.getLast? == some c

/- The text without its last character if that is `c`. -/
def dropFinal
    (c : Char)
    (text : Text) :
    Text :=
  if endsIn c text then
    text.dropLast
  else
    text

/- The text without its first character if that is `c`. -/
def dropInitial
    (c : Char)
    (text : Text) :
    Text :=
  match text with
  | [] => []
  | d :: rest => if d = c then rest else d :: rest

theorem dropInitial_of_head?_ne
    {c : Char}
    {text : Text}
    (hHead : text.head? ≠ some c) :
    text.dropInitial c = text := by
  cases text with
  | nil => rfl
  | cons d rest =>
      refine if_neg ?_
      intro hSame
      exact hHead (by rw [hSame]; rfl)

end Text

end LogLine
