import TextMate.Proofs.Import.Walk
import TextMate.Proofs.Json.Value

/-
  This file defines what is left of a JSON value without the
  nodes at some of its places, and when the findings of a walk
  are at a place.

  Main declarations:
    * `Json.Value.without`
    * `without_eq_self`
    * `HasNode`
    * `foundAt`
    * `foundAt_flatMap_below`
-/

namespace TextMate

namespace Import

------------------------------------------------------------
-- Removal of Places
------------------------------------------------------------

/- Look for places from behind a step. -/
def behind
    (step : Step)
    (gone : Place → Bool)
    (place : Place) : Bool :=
  gone (step :: place)

/-
  Remove the nodes at places from a value.  The value itself
  stays, and positions are those before the removal.
-/
mutual

def without
    (gone : Place → Bool) : Json.Value → Json.Value
  | .null => .null
  | .bool value => .bool value
  | .number value => .number value
  | .string value => .string value
  | .array items => .array (withoutItems gone 0 items)
  | .object members => .object (withoutMembers gone members)
termination_by structural x => x

/- Remove nodes from items, from a position on. -/
def withoutItems
    (gone : Place → Bool)
    (position : Nat) : List Json.Value → List Json.Value
  | [] => []
  | value :: rest =>
      if gone [.item position] then
        withoutItems gone (position + 1) rest
      else
        without (behind (.item position) gone) value ::
          withoutItems gone (position + 1) rest
termination_by structural x => x

/- Remove nodes from the members of an object. -/
def withoutMembers
    (gone : Place → Bool) :
    List (String × Json.Value) → Json.Object
  | [] => []
  | (key, value) :: rest =>
      if gone [.member key] then withoutMembers gone rest
      else
        (key, without (behind (.member key) gone) value) ::
          withoutMembers gone rest
termination_by structural x => x

end

/- What is left of a member. -/
def memberWithout?
    (gone : Place → Bool)
    (member : String × Json.Value) :
    Option (String × Json.Value) :=
  if gone [.member member.1] then none
  else
    some
      (member.1,
        without (behind (.member member.1) gone) member.2)

/- What is left of an item at a position. -/
def itemWithout?
    (gone : Place → Bool)
    (item : Json.Value × Nat) : Option Json.Value :=
  if gone [.item item.2] then none
  else some (without (behind (.item item.2) gone) item.1)

theorem withoutMembers_eq_filterMap
    (gone : Place → Bool)
    (members : Json.Object) :
    withoutMembers gone members =
      members.filterMap (memberWithout? gone) := by
  induction members with
  | nil => rfl
  | cons member rest ih =>
      rw [withoutMembers, ih]
      by_cases hGone : gone [.member member.1]
      · rw [if_pos hGone, List.filterMap_cons_none
          (by rw [memberWithout?, if_pos hGone])]
      · rw [if_neg hGone, List.filterMap_cons_some
          (by rw [memberWithout?, if_neg hGone])]

theorem withoutItems_eq_filterMap
    (gone : Place → Bool)
    (position : Nat)
    (items : List Json.Value) :
    withoutItems gone position items =
      (items.zipIdx position).filterMap
        (itemWithout? gone) := by
  induction items generalizing position with
  | nil => rfl
  | cons item rest ih =>
      rw [withoutItems, ih, List.zipIdx_cons]
      by_cases hGone : gone [.item position]
      · rw [if_pos hGone, List.filterMap_cons_none
          (by rw [itemWithout?, if_pos hGone])]
      · rw [if_neg hGone, List.filterMap_cons_some
          (by rw [itemWithout?, if_neg hGone])]

/- A member that is left was there and is not removed. -/
theorem mem_withoutMembers_iff
    {gone : Place → Bool}
    {members : Json.Object}
    {key : String}
    {value : Json.Value} :
    (key, value) ∈ withoutMembers gone members ↔
      ∃ old, (key, old) ∈ members ∧
        gone [.member key] = false ∧
        value = without (behind (.member key) gone) old := by
  rw [withoutMembers_eq_filterMap, List.mem_filterMap]
  simp only [memberWithout?, Option.ite_none_left_eq_some,
    Option.some.injEq, Prod.mk.injEq, Bool.not_eq_true]
  constructor
  · rintro ⟨⟨_, old⟩, hMember, hStays, rfl, rfl⟩
    exact ⟨old, hMember, hStays, rfl⟩
  · rintro ⟨old, hMember, hStays, rfl⟩
    exact ⟨(key, old), hMember, hStays, rfl, rfl⟩

/- The keys that are left are distinct if all were. -/
theorem nodup_keys_withoutMembers
    (gone : Place → Bool)
    {members : Json.Object}
    (hKeys : members.keys.Nodup) :
    (withoutMembers gone members).keys.Nodup := by
  rw [Json.Object.keys, List.nodup_iff_pairwise_ne,
    List.pairwise_map] at hKeys ⊢
  rw [withoutMembers_eq_filterMap, List.pairwise_filterMap]
  refine hKeys.imp ?_
  intro x y hDistinct left hLeft other hOther
  simp only [memberWithout?, Option.ite_none_left_eq_some,
    Option.some.injEq] at hLeft hOther
  rcases hLeft with ⟨-, rfl⟩
  rcases hOther with ⟨-, rfl⟩
  exact hDistinct

/- Nothing is removed where nothing is gone. -/
theorem without_eq_self
    {gone : Place → Bool}
    (hStays : ∀ place, gone place = false)
    (value : Json.Value) :
    without gone value = value := by
  induction value using Json.Value.induction
    generalizing gone with
  | null => rfl
  | bool value => rfl
  | number value => rfl
  | string value => rfl
  | array items ih =>
      have hItems :
          ∀ item ∈ items.zipIdx,
            itemWithout? gone item = some item.1 := by
        intro item hItem
        have hBehind :
            ∀ place,
              behind (.item item.2) gone place = false :=
          fun place => hStays _
        rw [itemWithout?, hStays, if_neg Bool.false_ne_true,
          ih item.1 (List.fst_mem_of_mem_zipIdx hItem) hBehind]
      rw [without, withoutItems_eq_filterMap,
        List.filterMap_eq_map_iff_forall_eq_some.mpr hItems,
        List.zipIdx_map_fst]
  | object members ih =>
      have hMembers :
          ∀ member ∈ members,
            memberWithout? gone member = some (id member) := by
        intro member hMember
        have hBehind :
            ∀ place,
              behind (.member member.1) gone place = false :=
          fun place => hStays _
        rw [memberWithout?, hStays, if_neg Bool.false_ne_true,
          ih member hMember hBehind]
        rfl
      rw [without, withoutMembers_eq_filterMap,
        List.filterMap_eq_map_iff_forall_eq_some.mpr hMembers,
        List.map_id]

/- There is a node at a place of a value. -/
def HasNode : Place → Json.Value → Prop
  | [], _ => True
  | .member key :: rest, .object members =>
      ∃ value, (key, value) ∈ members ∧ HasNode rest value
  | .item position :: rest, .array items =>
      ∃ value, (value, position) ∈ items.zipIdx ∧
        HasNode rest value
  | _ :: _, _ => False

------------------------------------------------------------
-- Places of Findings
------------------------------------------------------------

/- Something is found at the place itself. -/
def foundAt
    (findings : List Finding)
    (place : Place) : Bool :=
  findings.any fun finding => finding.place == place

@[simp] theorem foundAt_nil
    (place : Place) :
    foundAt [] place = false := rfl

@[simp] theorem foundAt_append
    (first second : List Finding)
    (place : Place) :
    foundAt (first ++ second) place =
      (foundAt first place || foundAt second place) :=
  List.any_append

/- Findings behind a step are not at the start. -/
@[simp] theorem foundAt_below_nil
    (step : Step)
    (findings : List Finding) :
    foundAt (findings.map (Finding.below step)) [] = false := by
  rw [foundAt, List.any_map, List.any_eq_false]
  intro finding _
  simp [Finding.below]

/- Findings behind a step are at the places behind it. -/
@[simp] theorem foundAt_below_cons
    (step other : Step)
    (findings : List Finding)
    (place : Place) :
    foundAt (findings.map (Finding.below step))
        (other :: place) =
      (step == other && foundAt findings place) := by
  rw [foundAt, List.any_map]
  cases hStep : step == other with
  | true =>
      rw [eq_of_beq hStep, Bool.true_and, foundAt]
      refine List.any_congr rfl fun finding => ?_
      simp [Finding.below]
  | false =>
      rw [Bool.false_and, List.any_eq_false]
      intro finding _
      have hOther := ne_of_beq_false hStep
      simp [Finding.below, hOther]

/-
  Of nodes to which different steps lead, the findings behind
  the step to one of them are its own.
-/
theorem foundAt_flatMap_below
    {α : Type}
    {nodes : List α}
    {step : α → Step}
    (findings : α → List Finding)
    (hDistinct : (nodes.map step).Nodup)
    {node : α}
    (hNode : node ∈ nodes)
    (place : Place) :
    foundAt
        (nodes.flatMap fun node =>
          (findings node).map (Finding.below (step node)))
        (step node :: place) =
      foundAt (findings node) place := by
  rw [foundAt, List.any_flatMap, Bool.eq_iff_iff,
    List.any_eq_true]
  constructor
  · rintro ⟨other, hOther, hFound⟩
    rw [← foundAt, foundAt_below_cons, Bool.and_eq_true,
      beq_iff_eq] at hFound
    have hSame : other = node :=
      List.inj_on_of_nodup_map hDistinct hOther hNode hFound.1
    rw [← hSame]
    exact hFound.2
  · intro hFound
    refine ⟨node, hNode, ?_⟩
    rw [← foundAt, foundAt_below_cons, beq_self_eq_true,
      Bool.true_and]
    exact hFound

end Import

end TextMate
