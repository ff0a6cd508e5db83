import TextMate.Rule

/-
  This file proves that the equality test of rules is equality,
  at any depth.

  Main declarations:
    * `Rule.same_iff`
-/

namespace TextMate

namespace Rule

/- Rules that pass the test are equal, and so are their parts. -/
mutual

theorem same_iff :
    ∀ rule other : Rule, rule.same other = true ↔ rule = other
  | ⟨i, m, b, e, w, n, c, cs, bs, es, ws, ps⟩,
    ⟨i', m', b', e', w', n', c', cs', bs', es', ws', ps'⟩ => by
      rw [same]
      simp only [Bool.and_eq_true, beq_iff_eq, Rule.mk.injEq,
        sameCaptures?_iff cs cs', sameCaptures?_iff bs bs',
        sameCaptures?_iff es es', sameCaptures?_iff ws ws',
        sameRules?_iff ps ps', and_assoc]

theorem sameCaptures?_iff :
    ∀ (captures : Option (List (UInt32 × Rule)))
      (others : Option Captures),
      sameCaptures? captures others = true ↔ captures = others
  | none, none => by simp [sameCaptures?]
  | none, some _ => by simp [sameCaptures?]
  | some _, none => by simp [sameCaptures?]
  | some captures, some others => by
      rw [sameCaptures?, sameCaptures_iff captures others,
        Option.some.injEq]

theorem sameCaptures_iff :
    ∀ (captures : List (UInt32 × Rule)) (others : Captures),
      sameCaptures captures others = true ↔ captures = others
  | [], [] => by simp [sameCaptures]
  | [], _ :: _ => by simp [sameCaptures]
  | _ :: _, [] => by simp [sameCaptures]
  | (index, rule) :: rest, (index', rule') :: rest' => by
      rw [sameCaptures, Bool.and_eq_true, Bool.and_eq_true,
        beq_iff_eq, same_iff rule rule',
        sameCaptures_iff rest rest', List.cons.injEq,
        Prod.mk.injEq]

theorem sameRules?_iff :
    ∀ rules others : Option (List Rule),
      sameRules? rules others = true ↔ rules = others
  | none, none => by simp [sameRules?]
  | none, some _ => by simp [sameRules?]
  | some _, none => by simp [sameRules?]
  | some rules, some others => by
      rw [sameRules?, sameRules_iff rules others,
        Option.some.injEq]

theorem sameRules_iff :
    ∀ rules others : List Rule,
      sameRules rules others = true ↔ rules = others
  | [], [] => by simp [sameRules]
  | [], _ :: _ => by simp [sameRules]
  | _ :: _, [] => by simp [sameRules]
  | rule :: rest, rule' :: rest' => by
      rw [sameRules, Bool.and_eq_true, same_iff rule rule',
        sameRules_iff rest rest', List.cons.injEq]

end

end Rule

end TextMate
