import TextMate.Text.Word

/-
  This file proves what is needed of the decimal and the
  hexadecimal text of a number.

  Main declarations:
    * `Text.ne_of_isDigit`
    * `Text.isDigit_of_mem_toDigits`
    * `Text.head_toDigits_ne_zero`
    * `Text.le_ofDigitChars`
-/

namespace TextMate

namespace Text

/- The two notions of a digit are the same. -/
theorem isDigit_eq_isDigit
    (c : Char) :
    isDigit c = c.isDigit := by
  rfl

/- A digit is no character that is none. -/
theorem ne_of_isDigit
    {c d : Char}
    (hDigit : isDigit c = true)
    (hOther : isDigit d = false) :
    c ≠ d := by
  rintro rfl
  rw [hDigit] at hOther
  cases hOther

/- The decimal text of a number consists of digits. -/
theorem isDigit_of_mem_toDigits
    {n : Nat}
    {c : Char}
    (hMember : c ∈ Nat.toDigits 10 n) :
    isDigit c = true := by
  rw [isDigit_eq_isDigit]
  exact Nat.isDigit_of_mem_toDigits (by omega) (by omega)
    hMember

/- The decimal text of a positive number starts with no zero. -/
theorem head_toDigits_ne_zero
    {n : Nat}
    (hPositive : 0 < n)
    {c : Char}
    {rest : List Char}
    (hText : Nat.toDigits 10 n = c :: rest) :
    c ≠ '0' := by
  induction n using Nat.strongRecOn generalizing rest with
  | ind n ih =>
      rw [Nat.toDigits_eq_if (by omega)] at hText
      split at hText
      · rename_i hDigit
        have hChar : c = Nat.digitChar n :=
          (List.cons.inj hText).1.symm
        have hNonzero :
            ∀ m < 10, 0 < m → Nat.digitChar m ≠ '0' := by
          decide
        rw [hChar]
        exact hNonzero n hDigit hPositive
      · rename_i hLarge
        cases hFirst : Nat.toDigits 10 (n / 10) with
        | nil => exact absurd hFirst Nat.toDigits_ne_nil
        | cons first others =>
            rw [hFirst, List.cons_append] at hText
            rw [(List.cons.inj hText).1] at hFirst
            exact ih (n / 10) (by omega) (by omega) hFirst

/- A number is no less than what its digits are appended to. -/
theorem le_ofDigitChars
    (digits : List Char)
    (value : Nat) :
    value ≤ Nat.ofDigitChars 10 digits value := by
  induction digits generalizing value with
  | nil => simp
  | cons c rest ih =>
      rw [Nat.ofDigitChars_cons]
      have hRest := ih (10 * value + (c.toNat - '0'.toNat))
      omega

end Text

end TextMate
