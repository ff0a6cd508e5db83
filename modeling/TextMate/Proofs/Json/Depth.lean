import TextMate.Proofs.Json.Within

/-
  This file counts how deep arrays and objects are nested in a
  value.  A value in which no object has a key twice is within
  the limit on nesting just if its depth is below the limit.

  Main declarations:
    * `Json.Value.depth`
    * `Json.Value.depth_array_lt_iff`
    * `Json.Value.depth_object_lt_iff`
    * `Json.Value.Within.depth_lt`
-/

namespace TextMate

namespace Json

------------------------------------------------------------
-- Depth
------------------------------------------------------------

/- The levels of arrays and objects that a value opens. -/
mutual

def Value.depth : Value → Nat
  | .array items => itemsDepth items + 1
  | .object fields => fieldsDepth fields + 1
  | .null | .bool _ | .number _ | .string _ => 0
termination_by structural x => x

/- The depth of the deepest item. -/
def itemsDepth : List Value → Nat
  | [] => 0
  | item :: rest => max item.depth (itemsDepth rest)
termination_by structural x => x

/- The depth of the deepest member. -/
def fieldsDepth : List (String × Value) → Nat
  | [] => 0
  | (_, value) :: rest => max value.depth (fieldsDepth rest)
termination_by structural x => x

end

/- Items are less deep than a bound if each of them is. -/
theorem itemsDepth_lt_iff
    {bound : Nat}
    (hBound : 0 < bound)
    (items : List Value) :
    itemsDepth items < bound ↔
      ∀ item ∈ items, item.depth < bound := by
  induction items with
  | nil => simp [itemsDepth, hBound]
  | cons item rest ih =>
      rw [itemsDepth, Nat.max_lt, ih, List.forall_mem_cons]

/- So are members. -/
theorem fieldsDepth_lt_iff
    {bound : Nat}
    (hBound : 0 < bound)
    (members : Object) :
    fieldsDepth members < bound ↔
      ∀ member ∈ members, member.2.depth < bound := by
  induction members with
  | nil => simp [fieldsDepth, hBound]
  | cons member rest ih =>
      rw [fieldsDepth, Nat.max_lt, ih, List.forall_mem_cons]

namespace Value

/- An array takes one level, which its items are below. -/
theorem depth_array_lt_iff
    {bound : Nat}
    (items : List Value) :
    (array items).depth < bound ↔
      1 < bound ∧ ∀ item ∈ items, item.depth < bound - 1 := by
  rw [depth]
  by_cases hBound : 1 < bound
  · rw [and_iff_right hBound,
      ← itemsDepth_lt_iff (Nat.sub_pos_of_lt hBound)]
    omega
  · constructor
    · intro hDepth
      omega
    · exact fun hBoth => absurd hBoth.1 hBound

/- An object takes one level, which its members are below. -/
theorem depth_object_lt_iff
    {bound : Nat}
    (members : Object) :
    (object members).depth < bound ↔
      1 < bound ∧
        ∀ member ∈ members, member.2.depth < bound - 1 := by
  rw [depth]
  by_cases hBound : 1 < bound
  · rw [and_iff_right hBound,
      ← fieldsDepth_lt_iff (Nat.sub_pos_of_lt hBound)]
    omega
  · constructor
    · intro hDepth
      omega
    · exact fun hBoth => absurd hBoth.1 hBound

/- What is within a limit is less deep than the limit. -/
theorem Within.depth_lt
    {numbers : Number → Prop}
    {value : Value}
    {bound : Nat}
    (hBound : 0 < bound)
    (hWithin : value.Within numbers bound) :
    value.depth < bound := by
  induction hWithin with
  | null | bool _ | number _ | string _ => exact hBound
  | array hDepth _ ih =>
      exact
        (depth_array_lt_iff _).mpr
          ⟨hDepth, fun item hItem =>
            ih item hItem (Nat.sub_pos_of_lt hDepth)⟩
  | object hDepth _ _ ih =>
      exact
        (depth_object_lt_iff _).mpr
          ⟨hDepth, fun member hMember =>
            ih member hMember (Nat.sub_pos_of_lt hDepth)⟩

end Value

end Json

end TextMate
