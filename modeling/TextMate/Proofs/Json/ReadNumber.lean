import TextMate.Proofs.Json.ReadString
import TextMate.Proofs.Text.Digits

/-
  This file proves that an integer of 64 bits is read back
  from its printed form.

  Main declarations:
    * `Json.EndsNumber`
    * `Json.Number.IsWord`
    * `Json.readNumber_toDigits`
-/

namespace TextMate

namespace Json

open Text (isDigit digitValue)

------------------------------------------------------------
-- Digits
------------------------------------------------------------

/- A number that stands before the text ends there. -/
def EndsNumber
    (rest : List Char) : Prop :=
  startsWithDigit rest = false ∧ isContinued rest = false

/- Digits within bounds are all taken. -/
theorem absorbDigits_append
    {digits rest : List Char}
    (hDigits : ∀ c ∈ digits, isDigit c = true)
    (hEnd : startsWithDigit rest = false)
    (significand : Nat)
    (hBound :
      Nat.ofDigitChars 10 digits significand ≤
        maxSignificand) :
    ∃ hRest,
      absorbDigits significand (digits ++ rest) =
        (Nat.ofDigitChars 10 digits significand,
          digits.length, ⟨rest, hRest⟩) := by
  induction digits generalizing significand with
  | nil =>
      refine ⟨Nat.le_refl _, ?_⟩
      cases rest with
      | nil => simp [absorbDigits]
      | cons c rest =>
          have hStop : isDigit c = false := hEnd
          simp [absorbDigits, hStop]
  | cons c digits ih =>
      have hDigit := hDigits c List.mem_cons_self
      have hLonger :
          10 * significand + (c.toNat - '0'.toNat) =
            significand * 10 + digitValue c := by
        rw [digitValue, Nat.mul_comm]
      rw [Nat.ofDigitChars_cons, hLonger] at hBound ⊢
      have hWithin :=
        Nat.le_trans (Text.le_ofDigitChars digits _) hBound
      rcases ih
          (fun d hMember =>
            hDigits d (List.mem_cons_of_mem c hMember))
          (significand * 10 + digitValue c) hBound with
        ⟨hRest, hAbsorb⟩
      refine
        ⟨by simp only [List.cons_append, List.length_cons]; omega,
          ?_⟩
      simp [absorbDigits, hDigit, hWithin, hAbsorb]

------------------------------------------------------------
-- Numbers
------------------------------------------------------------

/- A number that ends behind its digits is an integer. -/
theorem finishNumber_of_ends
    (negative : Bool)
    (significand : Nat)
    {rest : List Char}
    (hEnd : EndsNumber rest) :
    finishNumber negative significand rest =
      .ok (integerNumber negative significand,
        ⟨rest, Nat.le_refl _⟩) := by
  simp [finishNumber, hEnd.2]

/- The decimal text of a number is read as the number. -/
theorem readNumber_toDigits
    (negative : Bool)
    {n : Nat}
    (hBound : n ≤ maxSignificand)
    {rest : List Char}
    (hEnd : EndsNumber rest) :
    Reads (readNumber negative) (Nat.toDigits 10 n ++ rest)
      (integerNumber negative n) rest := by
  by_cases hZero : n = 0
  · subst hZero
    refine ⟨by simp, ?_⟩
    show readNumber negative ('0' :: rest) = _
    simp only [readNumber, hEnd.1,
      finishNumber_of_ends _ _ hEnd, if_true,
      Bool.false_eq_true, if_false]
    rfl
  · cases hText : Nat.toDigits 10 n with
    | nil => exact absurd hText Nat.toDigits_ne_nil
    | cons c digits =>
        have hFirst : c ≠ '0' :=
          Text.head_toDigits_ne_zero (by omega) hText
        have hDigits : ∀ d ∈ c :: digits, isDigit d = true := by
          intro d hMember
          rw [← hText] at hMember
          exact Text.isDigit_of_mem_toDigits hMember
        have hValue :
            Nat.ofDigitChars 10 digits (digitValue c) = n := by
          have hRead := Nat.ofDigitChars_ten_toDigits (n := n)
          rw [hText, Nat.ofDigitChars_cons] at hRead
          simpa [digitValue] using hRead
        rcases absorbDigits_append
            (fun d hMember =>
              hDigits d (List.mem_cons_of_mem c hMember))
            hEnd.1 (digitValue c) (by rw [hValue]; exact hBound)
          with ⟨hRest, hAbsorb⟩
        rw [List.cons_append]
        refine ⟨by simp only [List.length_cons]; omega, ?_⟩
        rw [hValue] at hAbsorb
        rw [readNumber, if_neg hFirst,
          if_pos (hDigits c List.mem_cons_self)]
        -- What is left is part of the types of what follows.
        generalize absorbDigits (digitValue c) (digits ++ rest) =
          absorbed at hAbsorb
        subst hAbsorb
        simp only [hEnd.1, Bool.false_eq_true, if_false,
          finishNumber_of_ends _ _ hEnd]

end Json

end TextMate
