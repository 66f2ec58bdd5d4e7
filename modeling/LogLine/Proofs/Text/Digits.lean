import LogLine.Text.Quoted
import Mathlib.Algebra.Group.Nat.Defs
import Mathlib.Data.List.Basic

/-
  Numbers by their digits in a base, written and read back.

  Key definitions include:
    * `LogLine.Text.numberIn?`

  Key theorems include:
    * `LogLine.Text.numberIn?_toDigits`
    * `LogLine.Text.numberIn?_zeroPadded`
    * `LogLine.head?_toDigits_ne_zero`
    * `LogLine.hexChar?_zeroPadded`
-/

------------------------------------------------------------
-- Reading Digits
------------------------------------------------------------

namespace LogLine

namespace Text

/-
  The number that a text gives in a base, the first digit
  highest, where `digit?` tells what each digit stands for.
-/
def numberIn?
    (radix : Nat)
    (digit? : Char → Option Nat)
    (digits : Text) :
    Option Nat :=
  digits.foldlM
    (fun value c => (digit? c).map (radix * value + ·)) 0

variable {radix : Nat}
variable {digit? : Char → Option Nat}

/- What is in front of the last digit counts `radix` times. -/
theorem numberIn?_concat
    {front : Text}
    {c : Char}
    {value last : Nat}
    (hFront : numberIn? radix digit? front = some value)
    (hLast : digit? c = some last) :
    numberIn? radix digit? (front ++ [c]) =
      some (radix * value + last) := by
  unfold numberIn? at hFront ⊢
  rw [List.foldlM_append, hFront]
  simp [hLast]

/-
  Digits that are read as what they were written for give the
  number that was written; induction goes from the last digit.
-/
theorem numberIn?_toDigits
    (hRadix : 1 < radix)
    (hDigits :
      ∀ d < radix, digit? (Nat.digitChar d) = some d)
    (n : Nat) :
    numberIn? radix digit? (Nat.toDigits radix n) = some n := by
  induction n using Nat.strongRecOn with
  | ind n ih =>
      by_cases hSmall : n < radix
      · rw [Nat.toDigits_of_lt_base hSmall]
        simp [numberIn?, hDigits n hSmall]
      · have hFront := ih (n / radix) (by
          apply Nat.div_lt_self <;> omega)
        have hLast :=
          hDigits (n % radix) (Nat.mod_lt n (by omega))
        rw [Nat.toDigits_eq_if hRadix, if_neg hSmall,
          numberIn?_concat hFront hLast, Nat.div_add_mod]

/- Zeros in front change nothing. -/
theorem numberIn?_replicate_append
    (hZero : digit? '0' = some 0)
    (count : Nat)
    (digits : Text) :
    numberIn? radix digit?
        (List.replicate count '0' ++ digits) =
      numberIn? radix digit? digits := by
  induction count with
  | zero => rfl
  | succ count ih =>
      rw [← ih]
      simp [numberIn?, List.replicate_succ, hZero]

theorem numberIn?_zeroPadded
    (hZero : digit? '0' = some 0)
    (width : Nat)
    (digits : Text) :
    numberIn? radix digit? (digits.zeroPadded width) =
      numberIn? radix digit? digits :=
  numberIn?_replicate_append hZero _ digits

end Text

/- Every digit of a number is written for a value below the base. -/
theorem exists_digitChar_of_mem_toDigits
    {radix n : Nat}
    (hRadix : 1 < radix)
    {c : Char}
    (hMem : c ∈ Nat.toDigits radix n) :
    ∃ d < radix, c = Nat.digitChar d := by
  induction n using Nat.strongRecOn with
  | ind n ih =>
      rw [Nat.toDigits_eq_if hRadix] at hMem
      by_cases hSmall : n < radix
      · rw [if_pos hSmall, List.mem_singleton] at hMem
        exact ⟨n, hSmall, hMem⟩
      · rw [if_neg hSmall, List.mem_append,
          List.mem_singleton] at hMem
        rcases hMem with hFront | hLast
        · exact ih (n / radix)
            (by apply Nat.div_lt_self <;> omega) hFront
        · exact ⟨n % radix, Nat.mod_lt n (by omega), hLast⟩

theorem digitChar_ne_zero :
    ∀ d < 16, d ≠ 0 → Nat.digitChar d ≠ '0' := by
  decide

/- The first digit of a number other than zero is no zero. -/
theorem head?_toDigits_ne_zero
    {radix n : Nat}
    (hRadix : 1 < radix)
    (hDigits : radix ≤ 16)
    (hSome : n ≠ 0) :
    (Nat.toDigits radix n).head? ≠ some '0' := by
  induction n using Nat.strongRecOn with
  | ind n ih =>
      rw [Nat.toDigits_eq_if hRadix]
      by_cases hSmall : n < radix
      · rw [if_pos hSmall, List.head?_cons, ne_eq,
          Option.some_inj]
        exact digitChar_ne_zero n (by omega) hSome
      · rw [if_neg hSmall,
          List.head?_append_of_ne_nil _ Nat.toDigits_ne_nil]
        have hFront : 0 < n / radix :=
          Nat.div_pos (by omega) (by omega)
        exact
          ih (n / radix) (Nat.div_lt_self (by omega) hRadix)
            (by omega)

end LogLine

------------------------------------------------------------
-- Characters by Their Code Points
------------------------------------------------------------

namespace LogLine

theorem hexDigit?_digitChar :
    ∀ d < 16, hexDigit? (Nat.digitChar d) = some d := by
  decide

theorem hexValue?_zeroPadded
    (width n : Nat) :
    hexValue? (Text.zeroPadded width (Nat.toDigits 16 n)) =
      some n :=
  (Text.numberIn?_zeroPadded rfl width _).trans
    (Text.numberIn?_toDigits (by decide) hexDigit?_digitChar n)

/- A character is read back from its code point. -/
theorem hexChar?_zeroPadded
    (width : Nat)
    (c : Char) :
    hexChar? (Text.zeroPadded width (Nat.toDigits 16 c.toNat)) =
      some c := by
  have hValid : c.toNat.isValidChar := c.valid
  rw [hexChar?, hexValue?_zeroPadded, Option.bind_some,
    if_pos hValid, Char.ofNat_toNat]

/- A number with few digits gets as many as asked for. -/
theorem length_zeroPadded_toDigits
    {radix width n : Nat}
    (hRadix : 1 < radix)
    (hWidth : 0 < width)
    (hSmall : n < radix ^ width) :
    (Text.zeroPadded width (Nat.toDigits radix n)).length =
      width := by
  have hLength :=
    (Nat.length_toDigits_le_iff hRadix hWidth).mpr hSmall
  rw [Text.zeroPadded, List.length_append,
    List.length_replicate]
  omega

end LogLine
