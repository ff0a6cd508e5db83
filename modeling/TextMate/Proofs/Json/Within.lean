import TextMate.Proofs.Json.Value

/-
  This file defines the values that a reader can give: no
  object has a key twice, numbers are of some form, and arrays
  and objects are nested less than some depth.

  The depth counts the levels that may still be opened, with
  the one that is refused, as the reader does.

  Main declarations:
    * `Json.Value.Within`
    * `Json.Number.IsWord`, `Json.Number.Any`
-/

namespace TextMate

namespace Json

/- An integer of 64 bits, signed or unsigned. -/
def Number.IsWord : Number → Prop
  | .integer value =>
      -(Nat.pow 2 63 : Int) ≤ value ∧ value < Nat.pow 2 64
  | .double _ => False

/- Any number will do. -/
def Number.Any
    (_ : Number) : Prop :=
  True

namespace Value

/- The value is nested less than the depth, and tidy. -/
inductive Within
    (numbers : Number → Prop) : Nat → Value → Prop where
  | null
      {depth : Nat} :
      Within numbers depth .null
  | bool
      {depth : Nat}
      (value : Bool) :
      Within numbers depth (.bool value)
  | number
      {depth : Nat}
      {value : Number}
      (hNumber : numbers value) :
      Within numbers depth (.number value)
  | string
      {depth : Nat}
      (value : String) :
      Within numbers depth (.string value)
  | array
      {depth : Nat}
      {items : List Value}
      (hDepth : 1 < depth)
      (hItems : ∀ item ∈ items, Within numbers (depth - 1) item) :
      Within numbers depth (.array items)
  | object
      {depth : Nat}
      {members : Object}
      (hDepth : 1 < depth)
      (hKeys : members.keys.Nodup)
      (hMembers :
        ∀ member ∈ members,
          Within numbers (depth - 1) member.2) :
      Within numbers depth (.object members)

namespace Within

variable {numbers : Number → Prop}
variable {depth : Nat}

@[simp] theorem array_iff
    {items : List Value} :
    Within numbers depth (.array items) ↔
      1 < depth ∧
        ∀ item ∈ items, Within numbers (depth - 1) item := by
  constructor
  · intro hWithin
    cases hWithin with
    | array hDepth hItems => exact ⟨hDepth, hItems⟩
  · exact fun hBoth => .array hBoth.1 hBoth.2

@[simp] theorem object_iff
    {members : Object} :
    Within numbers depth (.object members) ↔
      1 < depth ∧ members.keys.Nodup ∧
        ∀ member ∈ members,
          Within numbers (depth - 1) member.2 := by
  constructor
  · intro hWithin
    cases hWithin with
    | object hDepth hKeys hMembers =>
        exact ⟨hDepth, hKeys, hMembers⟩
  · exact fun hAll => .object hAll.1 hAll.2.1 hAll.2.2

end Within

end Value

end Json

end TextMate
