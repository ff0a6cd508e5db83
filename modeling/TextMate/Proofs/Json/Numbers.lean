import TextMate.Proofs.Json.Depth

/-
  This file collects the numbers in a value.  To be within a
  limit is to be tidy, to have numbers of the right form only,
  and to be less deep than the limit.

  Main declarations:
    * `Json.Value.numbers`
    * `Json.Value.forall_numbers_array_iff`
    * `Json.Value.forall_numbers_object_iff`
    * `Json.Value.within_iff`
-/

namespace TextMate

namespace Json

------------------------------------------------------------
-- Numbers
------------------------------------------------------------

/- The numbers in a value, from left to right. -/
mutual

def Value.numbers : Value → List Number
  | .number value => [value]
  | .array items => itemsNumbers items
  | .object fields => fieldsNumbers fields
  | .null | .bool _ | .string _ => []
termination_by structural x => x

/- The numbers in items. -/
def itemsNumbers : List Value → List Number
  | [] => []
  | item :: rest => item.numbers ++ itemsNumbers rest
termination_by structural x => x

/- The numbers in the values of members. -/
def fieldsNumbers : List (String × Value) → List Number
  | [] => []
  | (_, value) :: rest => value.numbers ++ fieldsNumbers rest
termination_by structural x => x

end

instance : DecidablePred Number.IsWord := by
  intro number
  cases number <;> (unfold Number.IsWord; infer_instance)

namespace Value

/- What holds of the numbers of an array holds in each item. -/
theorem forall_numbers_array_iff
    {form : Number → Prop}
    (items : List Value) :
    (∀ number ∈ (array items).numbers, form number) ↔
      ∀ item ∈ items, ∀ number ∈ item.numbers, form number := by
  rw [numbers]
  induction items with
  | nil => simp [itemsNumbers]
  | cons item rest ih =>
      rw [itemsNumbers, List.forall_mem_append, ih,
        List.forall_mem_cons]

/- What holds of those of an object holds in each member. -/
theorem forall_numbers_object_iff
    {form : Number → Prop}
    (members : Object) :
    (∀ number ∈ (object members).numbers, form number) ↔
      ∀ member ∈ members,
        ∀ number ∈ member.2.numbers, form number := by
  rw [numbers]
  induction members with
  | nil => simp [fieldsNumbers]
  | cons member rest ih =>
      rw [fieldsNumbers, List.forall_mem_append, ih,
        List.forall_mem_cons]

------------------------------------------------------------
-- Limits
------------------------------------------------------------

/-
  A value is within a limit just if it is tidy, its numbers are
  of the form, and its depth is below the limit.
-/
theorem within_iff
    {form : Number → Prop}
    {bound : Nat}
    (hBound : 0 < bound)
    (value : Value) :
    value.Within form bound ↔
      value.Tidy ∧ (∀ number ∈ value.numbers, form number) ∧
        value.depth < bound := by
  induction value using Value.induction generalizing bound with
  | null =>
      exact ⟨fun _ => ⟨.null, nofun, hBound⟩, fun _ => .null⟩
  | bool value =>
      exact
        ⟨fun _ => ⟨.bool value, nofun, hBound⟩,
          fun _ => .bool value⟩
  | string value =>
      exact
        ⟨fun _ => ⟨.string value, nofun, hBound⟩,
          fun _ => .string value⟩
  | number value =>
      constructor
      · rintro (_ | _ | hNumber)
        refine ⟨.number value, ?_, hBound⟩
        simpa [numbers] using hNumber
      · rintro ⟨-, hNumbers, -⟩
        exact .number (hNumbers value List.mem_cons_self)
  | array items ih =>
      rw [Within.array_iff, Tidy.array_iff, depth_array_lt_iff,
        forall_numbers_array_iff]
      by_cases hLevel : 1 < bound
      · have hItems := fun item hItem =>
          ih item hItem (Nat.sub_pos_of_lt hLevel)
        simp only [forall₂_congr hItems, hLevel, true_and,
          imp_and, forall_and]
      · simp [hLevel]
  | object members ih =>
      rw [Within.object_iff, Tidy.object_iff,
        depth_object_lt_iff, forall_numbers_object_iff]
      by_cases hLevel : 1 < bound
      · have hMembers := fun member hMember =>
          ih member hMember (Nat.sub_pos_of_lt hLevel)
        simp only [forall₂_congr hMembers, hLevel, true_and,
          imp_and, forall_and, and_assoc]
      · simp [hLevel]

end Value

end Json

end TextMate
