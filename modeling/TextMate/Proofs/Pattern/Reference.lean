import TextMate.Pattern

/-
  This file reads the source of a pattern by pieces, a backslash
  together with the character behind it being one, and says
  which of the sources that are taken to have backreferences do
  have one.

  The test for backreferences looks for a backslash in front of
  a digit.  It finds each piece that refers to a group, but also
  takes an escaped backslash in front of a digit for one.

  Main declarations:
    * `Pattern.Piece`, `Pattern.pieces`
    * `Pattern.HasReference`
    * `Pattern.HasLookalike`
    * `Pattern.hasBackreferences_iff`
-/

namespace TextMate

namespace Pattern

------------------------------------------------------------
-- Pieces
------------------------------------------------------------

/- A character, or a backslash with the character behind it. -/
inductive Piece where
  | plain (c : Char)
  | escaped (c : Char)
deriving DecidableEq

/- The pieces of a source from left to right. -/
def pieces : List Char → List Piece
  | '\\' :: c :: rest => .escaped c :: pieces rest
  | c :: rest => .plain c :: pieces rest
  | [] => []

/- A piece refers to one of the first nine groups. -/
def Piece.isReference : Piece → Bool
  | .escaped c => isGroupDigit c
  | .plain _ => false

/- Some piece of the source refers to a group. -/
def HasReference
    (pattern : Pattern) : Prop :=
  ∃ piece ∈ pieces pattern.source.toList, piece.isReference

instance : DecidablePred HasReference := by
  intro pattern
  unfold HasReference
  infer_instance

/-
  Somewhere in the source an escaped backslash stands in front
  of a digit.
-/
def HasLookalike
    (pattern : Pattern) : Prop :=
  ∃ digit, isGroupDigit digit ∧
    [.escaped '\\', .plain digit] <:+:
      pieces pattern.source.toList

------------------------------------------------------------
-- Digits behind Backslashes
------------------------------------------------------------

/- A source starts with a digit if its first piece is one. -/
theorem head_pieces_iff
    (source : List Char) :
    source.head?.any isGroupDigit ↔
      ∃ digit, isGroupDigit digit ∧
        [.plain digit] <+: pieces source := by
  fun_cases pieces source with
  | case1 c rest =>
      have hSlash : isGroupDigit '\\' = false := rfl
      simp [hSlash]
  | case2 c rest _ => simp
  | case3 => simp

/- A lookalike starts with the first piece or is behind it. -/
theorem lookalike_cons_iff
    (piece : Piece)
    (rest : List Piece) :
    (∃ digit, isGroupDigit digit ∧
        [.escaped '\\', .plain digit] <:+: piece :: rest) ↔
      (piece = .escaped '\\' ∧
        ∃ digit, isGroupDigit digit ∧
          [.plain digit] <+: rest) ∨
        ∃ digit, isGroupDigit digit ∧
          [.escaped '\\', .plain digit] <:+: rest := by
  simp only [List.infix_cons_iff, List.cons_prefix_cons,
    and_or_left, exists_or]
  refine or_congr_left ⟨?_, ?_⟩
  · rintro ⟨digit, hDigit, rfl, hRest⟩
    exact ⟨rfl, digit, hDigit, hRest⟩
  · rintro ⟨rfl, digit, hDigit, hRest⟩
    exact ⟨digit, hDigit, rfl, hRest⟩

/-
  A backslash stands in front of a digit just if a piece is a
  reference, or an escaped backslash is in front of the digit.
-/
theorem refersToGroup_iff
    (source : List Char) :
    refersToGroup source ↔
      (∃ piece ∈ pieces source, piece.isReference) ∨
        ∃ digit, isGroupDigit digit ∧
          [.escaped '\\', .plain digit] <:+: pieces source := by
  fun_induction pieces source with
  | case1 c rest ih =>
      have hFirst :
          refersToGroup ('\\' :: c :: rest) ↔
            isGroupDigit c ∨
              (c = '\\' ∧ rest.head?.any isGroupDigit) ∨
                refersToGroup rest := by
        simp [refersToGroup]
      simp only [hFirst, ih, lookalike_cons_iff,
        head_pieces_iff, List.mem_cons, exists_eq_or_imp,
        Piece.isReference, Piece.escaped.injEq]
      rw [or_left_comm (b := ∃ piece ∈ pieces rest, _), or_assoc]
  | case2 c rest hNot ih =>
      have hFirst :
          refersToGroup (c :: rest) ↔ refersToGroup rest := by
        rw [refersToGroup, Bool.or_eq_true]
        refine or_iff_right ?_
        rw [Bool.and_eq_true, beq_iff_eq]
        rintro ⟨rfl, hDigit⟩
        cases rest with
        | nil => cases hDigit
        | cons next later => exact hNot next later rfl rfl
      simp [hFirst, ih, lookalike_cons_iff, Piece.isReference]
  | case3 => simp [refersToGroup]

/-
  A pattern is taken to have backreferences just if it has one
  or something that looks like one.
-/
theorem hasBackreferences_iff
    (pattern : Pattern) :
    pattern.hasBackreferences ↔
      pattern.HasReference ∨ pattern.HasLookalike :=
  refersToGroup_iff pattern.source.toList

end Pattern

end TextMate
