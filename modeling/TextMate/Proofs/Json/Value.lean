import Mathlib.Data.List.Perm.Subperm
import Mathlib.Tactic.Choose
import TextMate.Json.Value
import TextMate.Proofs.Lookup

/-
  This file gives the induction on JSON values, the values in
  which no object has a key twice, and what it takes for two
  objects or two arrays to be equal up to the order of keys.

  Main declarations:
    * `Json.Value.induction`
    * `Json.Value.Tidy`, `Json.Value.isTidy_iff`
    * `Json.Object.insert_of_not_mem`
    * `Json.Object.same_of_forall`
    * `Json.Object.exists_pairing_of_same`
    * `Json.Object.mem_keys_of_same`
    * `Json.sameItems_of_forall₂`, `Json.forall₂_of_sameItems`
-/

namespace TextMate

namespace Json

namespace Value

------------------------------------------------------------
-- Induction
------------------------------------------------------------

/-
  What holds of a value whenever it holds of the items or the
  members in it holds of every value.
-/
theorem induction
    {motive : Value → Prop}
    (null : motive .null)
    (bool : ∀ value, motive (.bool value))
    (number : ∀ value, motive (.number value))
    (string : ∀ value, motive (.string value))
    (array :
      ∀ items, (∀ item ∈ items, motive item) →
        motive (.array items))
    (object :
      ∀ members, (∀ member ∈ members, motive member.2) →
        motive (.object members))
    (value : Value) :
    motive value := by
  cases value with
  | null => exact null
  | bool value => exact bool value
  | number value => exact number value
  | string value => exact string value
  | array items =>
      apply array
      intro item hItem
      have hSize := List.sizeOf_lt_of_mem hItem
      exact induction null bool number string array object item
  | object members =>
      apply object
      intro member hMember
      have hSize := List.sizeOf_lt_of_mem hMember
      have hValue : sizeOf member.2 < sizeOf member := by
        cases member
        simp only [Prod.mk.sizeOf_spec]
        omega
      exact induction null bool number string array object
        member.2
termination_by sizeOf value

------------------------------------------------------------
-- Distinct Keys
------------------------------------------------------------

/- No object has a key twice, at any depth. -/
inductive Tidy : Value → Prop where
  | null : Tidy .null
  | bool (value : Bool) : Tidy (.bool value)
  | number (value : Number) : Tidy (.number value)
  | string (value : String) : Tidy (.string value)
  | array
      {items : List Value}
      (hItems : ∀ item ∈ items, Tidy item) :
      Tidy (.array items)
  | object
      {members : Object}
      (hKeys : members.keys.Nodup)
      (hMembers : ∀ member ∈ members, Tidy member.2) :
      Tidy (.object members)

namespace Tidy

@[simp] theorem array_iff
    {items : List Value} :
    Tidy (.array items) ↔ ∀ item ∈ items, Tidy item := by
  constructor
  · intro hTidy
    cases hTidy with
    | array hItems => exact hItems
  · exact .array

@[simp] theorem object_iff
    {members : Object} :
    Tidy (.object members) ↔
      members.keys.Nodup ∧ ∀ member ∈ members, Tidy member.2 := by
  constructor
  · intro hTidy
    cases hTidy with
    | object hKeys hMembers => exact ⟨hKeys, hMembers⟩
  · exact fun hBoth => .object hBoth.1 hBoth.2

theorem items
    {items : List Value}
    (hTidy : Tidy (.array items)) :
    ∀ item ∈ items, Tidy item :=
  array_iff.mp hTidy

theorem keys
    {members : Object}
    (hTidy : Tidy (.object members)) :
    members.keys.Nodup :=
  (object_iff.mp hTidy).1

theorem members
    {members : Object}
    (hTidy : Tidy (.object members)) :
    ∀ member ∈ members, Tidy member.2 :=
  (object_iff.mp hTidy).2

end Tidy

/- Whether no object has a key twice. -/
mutual

def isTidy : Value → Bool
  | .array items => areTidyItems items
  | .object members =>
      decide (Object.keys members).Nodup &&
        areTidyMembers members
  | .null | .bool _ | .number _ | .string _ => true
termination_by structural x => x

/- Whether all items are tidy. -/
def areTidyItems : List Value → Bool
  | [] => true
  | item :: rest => item.isTidy && areTidyItems rest
termination_by structural x => x

/- Whether all members are tidy. -/
def areTidyMembers : List (String × Value) → Bool
  | [] => true
  | (_, value) :: rest => value.isTidy && areTidyMembers rest
termination_by structural x => x

end

theorem areTidyItems_iff
    (items : List Value) :
    areTidyItems items ↔ ∀ item ∈ items, item.isTidy := by
  induction items with
  | nil => simp [areTidyItems]
  | cons item rest ih =>
      rw [areTidyItems, Bool.and_eq_true, ih,
        List.forall_mem_cons]

theorem areTidyMembers_iff
    (members : Object) :
    areTidyMembers members ↔
      ∀ member ∈ members, member.2.isTidy := by
  induction members with
  | nil => simp [areTidyMembers]
  | cons member rest ih =>
      rw [areTidyMembers, Bool.and_eq_true, ih,
        List.forall_mem_cons]

theorem isTidy_iff
    (value : Value) :
    value.isTidy ↔ value.Tidy := by
  induction value using induction with
  | null => exact iff_of_true rfl .null
  | bool value => exact iff_of_true rfl (.bool value)
  | number value => exact iff_of_true rfl (.number value)
  | string value => exact iff_of_true rfl (.string value)
  | array items ih =>
      rw [isTidy, areTidyItems_iff, Tidy.array_iff]
      exact forall₂_congr ih
  | object members ih =>
      rw [isTidy, Bool.and_eq_true, decide_eq_true_iff,
        areTidyMembers_iff, Tidy.object_iff]
      exact and_congr_right fun _ => forall₂_congr ih

instance : DecidablePred Tidy := fun value =>
  decidable_of_iff _ (isTidy_iff value)

end Value

------------------------------------------------------------
-- Insertion
------------------------------------------------------------

/- A new key goes to the end of an object. -/
theorem Object.insert_of_not_mem
    {key : String}
    {members : Object}
    (hNew : key ∉ members.keys)
    (value : Value) :
    Object.insert key value members =
      members ++ [(key, value)] := by
  induction members with
  | nil => rfl
  | cons member rest ih =>
      rcases member with ⟨name, old⟩
      rw [Object.keys, List.map_cons, List.mem_cons, not_or]
        at hNew
      rw [Object.insert, if_neg (Ne.symm hNew.1), ih hNew.2,
        List.cons_append]

------------------------------------------------------------
-- Equality
------------------------------------------------------------

/- Each member of one object has an equal one in the other. -/
theorem sameFields_iff
    {first second : Object}
    (hDistinct : second.keys.Nodup) :
    sameFields first second = true ↔
      ∀ member ∈ first, ∃ other,
        (member.1, other) ∈ second ∧
          member.2.same other = true := by
  induction first with
  | nil => simp [sameFields]
  | cons member rest ih =>
      rcases member with ⟨key, value⟩
      rw [sameFields, Bool.and_eq_true, ih,
        List.forall_mem_cons]
      refine and_congr_left fun _ => ?_
      constructor
      · intro hFound
        cases hOther : Object.lookup? second key with
        | none => simp [hOther] at hFound
        | some other =>
            rw [hOther] at hFound
            exact
              ⟨other, (lookup_eq_some_iff_mem hDistinct).mp hOther,
                hFound⟩
      · rintro ⟨other, hMember, hSame⟩
        have hOther : Object.lookup? second key = some other :=
          (lookup_eq_some_iff_mem hDistinct).mpr hMember
        rw [hOther]
        exact hSame

/- An object has the keys of one whose members it has. -/
theorem Object.keys_subset_of_forall
    {first second : Object}
    (hMembers :
      ∀ member ∈ first, ∃ other,
        (member.1, other) ∈ second ∧
          member.2.same other = true) :
    first.keys ⊆ second.keys := by
  intro key hKey
  rcases List.mem_map.mp hKey with ⟨member, hMember, rfl⟩
  rcases hMembers member hMember with ⟨other, hOther, -⟩
  exact List.mem_map.mpr ⟨_, hOther, rfl⟩

/-
  Objects without double keys are equal if each member of one
  has an equal one in the other, which has no key besides.
-/
theorem Object.same_of_forall
    {first second : Object}
    (hFirst : first.keys.Nodup)
    (hSecond : second.keys.Nodup)
    (hMembers :
      ∀ member ∈ first, ∃ other,
        (member.1, other) ∈ second ∧
          member.2.same other = true)
    (hKeys : ∀ key ∈ second.keys, key ∈ first.keys) :
    first.same second = true := by
  have hOthers := keys_subset_of_forall hMembers
  have hPerm : first.keys.Perm second.keys :=
    (List.perm_ext_iff_of_nodup hFirst hSecond).mpr
      fun key => ⟨fun hKey => hOthers hKey, hKeys key⟩
  have hLength : first.length = second.length := by
    have hLengths := hPerm.length_eq
    rwa [Object.keys, Object.keys, List.length_map,
      List.length_map] at hLengths
  rw [Object.same, Bool.and_eq_true]
  exact
    ⟨beq_iff_eq.mpr hLength,
      (sameFields_iff hSecond).mpr hMembers⟩

/-
  The members of objects that are equal up to order pair up:
  each has one with its key and an equal value, and these are
  all members of the other object.
-/
theorem Object.exists_pairing_of_same
    {first second : Object}
    (hFirst : first.keys.Nodup)
    (hSecond : second.keys.Nodup)
    (hSame : first.same second = true) :
    ∃ pair : String × Value → String × Value,
      (first.map pair).Perm second ∧
        ∀ member ∈ first,
          (pair member).1 = member.1 ∧
            member.2.same (pair member).2 = true := by
  rw [Object.same, Bool.and_eq_true, beq_iff_eq,
    sameFields_iff hSecond] at hSame
  rcases hSame with ⟨hLength, hMembers⟩
  have : Inhabited Value := ⟨.null⟩
  choose! other hOther hEqual using hMembers
  let pair : String × Value → String × Value :=
    fun member => (member.1, other member)
  have hKeys : ((first.map pair).map Prod.fst).Nodup := by
    rw [List.map_map]
    exact hFirst
  have hSubset : first.map pair ⊆ second := by
    intro found hFound
    rcases List.mem_map.mp hFound with ⟨member, hMember, rfl⟩
    exact hOther member hMember
  have hLess : second.length ≤ (first.map pair).length := by
    rw [List.length_map]
    exact Nat.le_of_eq hLength.symm
  refine
    ⟨pair, ?_, fun member hMember => ⟨rfl, hEqual member hMember⟩⟩
  exact
    (List.subperm_of_subset (hKeys.of_map _)
      hSubset).perm_of_length_le hLess

/- Objects that are equal up to order have the same keys. -/
theorem Object.mem_keys_of_same
    {first second : Object}
    (hFirst : first.keys.Nodup)
    (hSecond : second.keys.Nodup)
    (hSame : first.same second = true)
    {key : String}
    (hKey : key ∈ second.keys) :
    key ∈ first.keys := by
  rcases exists_pairing_of_same hFirst hSecond hSame with
    ⟨pair, hPerm, hPair⟩
  rcases List.mem_map.mp hKey with ⟨found, hFound, rfl⟩
  rcases List.mem_map.mp (hPerm.mem_iff.mpr hFound) with
    ⟨member, hMember, rfl⟩
  rw [(hPair member hMember).1]
  exact List.mem_map_of_mem hMember

/- A value that is equal to an object is one. -/
theorem Value.exists_object_of_same
    {members : Object}
    {value : Value}
    (hSame : (Value.object members).same value = true) :
    ∃ others, value = .object others ∧
      members.same others = true := by
  cases value with
  | object others => exact ⟨others, rfl, hSame⟩
  | null | bool _ | number _ | string _ | array _ =>
      cases hSame

/- A value that is equal to an array is one. -/
theorem Value.exists_array_of_same
    {items : List Value}
    {value : Value}
    (hSame : (Value.array items).same value = true) :
    ∃ others, value = .array others ∧
      sameItems items others = true := by
  cases value with
  | array others => exact ⟨others, rfl, hSame⟩
  | null | bool _ | number _ | string _ | object _ =>
      cases hSame

/- Arrays are equal if their items are, one by one. -/
theorem sameItems_of_forall₂
    {first second : List Value}
    (hItems :
      List.Forall₂ (fun x y => x.same y = true) first second) :
    sameItems first second = true := by
  induction hItems with
  | nil => rfl
  | cons hItem _ ih => rw [sameItems, hItem, ih]; rfl

/- The items of arrays that are equal are so, one by one. -/
theorem forall₂_of_sameItems
    {first second : List Value}
    (hSame : sameItems first second = true) :
    List.Forall₂ (fun x y => x.same y = true) first second := by
  induction first generalizing second with
  | nil =>
      cases second with
      | nil => exact .nil
      | cons _ _ => cases hSame
  | cons item rest ih =>
      cases second with
      | nil => cases hSame
      | cons other others =>
          rw [sameItems, Bool.and_eq_true] at hSame
          exact .cons hSame.1 (ih hSame.2)

end Json

end TextMate
