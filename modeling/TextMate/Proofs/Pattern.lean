import TextMate.Pattern

/-
  This file proves that a pattern and its text determine each
  other as far as documents are concerned: the pattern of a
  text is written as that text.

  Main declarations:
    * `Flags.split_eq`
    * `Pattern.text_ofText`
-/

namespace TextMate

------------------------------------------------------------
-- Groups of Options
------------------------------------------------------------

namespace Flags

/-
  A text is all source, or a group of options and the source.
-/
theorem split_eq
    (text : List Char) :
    (split text).1 = none ∧ (split text).2 = text ∨
      (split text).1 ≠ none ∧
        (split text).1.group ++ (split text).2 = text := by
  unfold split
  split
  · rename_i rest
    simp only
    split
    · rename_i c source hDrop
      split
      · rename_i hCanonical
        simp only [Bool.and_eq_true, bne_iff_ne, ne_eq,
          beq_iff_eq] at hCanonical
        refine Or.inr ⟨hCanonical.1, ?_⟩
        have hClose : c = ')' := by
          have hHead :=
            List.head?_dropWhile_not (· != ')') rest
          rw [hDrop] at hHead
          simpa using hHead
        have hRest := List.takeWhile_append_dropWhile
          (p := (· != ')')) (l := rest)
        rw [hDrop, hClose] at hRest
        simp only [group, hCanonical.2, List.cons_append,
          List.append_assoc, List.nil_append, hRest]
      · exact Or.inl ⟨rfl, rfl⟩
    · exact Or.inl ⟨rfl, rfl⟩
  · exact Or.inl ⟨rfl, rfl⟩

end Flags

------------------------------------------------------------
-- Texts of Patterns
------------------------------------------------------------

namespace Pattern

/- The pattern of a text is written as the text. -/
@[simp] theorem text_ofText
    (text : String) :
    (ofText text).text = text := by
  unfold ofText Pattern.text
  rcases Flags.split_eq text.toList with
    ⟨hNone, hSource⟩ | ⟨hSome, hGroup⟩
  · simp [hNone, hSource]
  · simp [hSome, hGroup]

end Pattern

end TextMate
