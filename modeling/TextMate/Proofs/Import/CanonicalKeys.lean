import TextMate.Proofs.Import.GroupIndex
import TextMate.Proofs.Import.Walk

/-
  This file defines when all captures keys that a walk meets
  are the plain decimal texts of their indexes.  A document
  may also write an index with a sign or with leading zeros.

  Main declarations:
    * `Walk.Canonical`
    * `Walk.Canonical.errors_eq_nil`
    * `canonical_walkRule_iff`, `canonical_walkCaptures_iff`,
      `canonical_walkItems_iff`
-/

namespace TextMate

namespace Import

/- A key is the decimal text of an index. -/
def IsCanonicalKey
    (key : String) : Prop :=
  ∃ index : UInt32, key = toString index.toNat

/- A captures key that is the text of an index names it. -/
theorem IsCanonicalKey.groupIndex?_eq
    {key : String}
    (hKey : IsCanonicalKey key) :
    ∃ index : UInt32,
      groupIndex? key = some index ∧
        key = toString index.toNat := by
  rcases hKey with ⟨index, rfl⟩
  exact ⟨index, groupIndex?_toString index, rfl⟩

instance : DecidablePred IsCanonicalKey := fun key =>
  decidable_of_iff
    ((groupIndex? key).any fun index =>
      key == toString index.toNat)
    (by
      rw [Option.any_eq_true]
      constructor
      · rintro ⟨index, -, hKey⟩
        exact ⟨index, eq_of_beq hKey⟩
      · rintro ⟨index, rfl⟩
        exact
          ⟨index, groupIndex?_toString index,
            beq_self_eq_true _⟩)

namespace Walk

variable {α β γ : Type}

/- All captures keys that are met are texts of indexes. -/
def Canonical
    (walk : Walk α) : Prop :=
  ∀ groupKey ∈ walk.keys, IsCanonicalKey groupKey.key

instance
    (walk : Walk α) :
    Decidable walk.Canonical :=
  inferInstanceAs
    (Decidable
      (∀ groupKey ∈ walk.keys, IsCanonicalKey groupKey.key))

@[simp] theorem canonical_map_iff
    (change : α → β)
    (walk : Walk α) :
    (walk.map change).Canonical ↔ walk.Canonical := Iff.rfl

@[simp] theorem canonical_below_iff
    (step : Step)
    (walk : Walk α) :
    (walk.below step).Canonical ↔ walk.Canonical :=
  List.forall_mem_map

@[simp] theorem canonical_join_iff
    (combine : α → β → γ)
    (first : Walk α)
    (second : Walk β) :
    (first.join combine second).Canonical ↔
      first.Canonical ∧ second.Canonical :=
  List.forall_mem_append

/- A walk that meets no captures key is canonical. -/
theorem canonical_of_keys_eq_nil
    {walk : Walk α}
    (hKeys : walk.keys = []) :
    walk.Canonical := by
  intro groupKey hMember
  rw [hKeys] at hMember
  cases hMember

/- Texts of indexes stop no import. -/
theorem Canonical.errors_eq_nil
    {walk : Walk α}
    (hCanonical : walk.Canonical)
    (path : String) :
    walk.errors path = [] := by
  rw [errors, List.filterMap_eq_nil_iff]
  intro groupKey hMember
  rcases (hCanonical groupKey hMember).groupIndex?_eq with
    ⟨index, hIndex, -⟩
  simp [GroupKey.error?, hIndex]

end Walk

variable (check : Acceptance)

/- A rule that is settled meets no captures key. -/
theorem keys_settled
    (outcomes : Outcomes) :
    (settled outcomes).keys = [] := by
  unfold settled
  split <;> rfl

/- A text holds no captures key. -/
theorem keys_walkText
    (field : Field)
    (text : String) :
    (walkText check field text).keys = [] := by
  unfold walkText
  cases field.kind with
  | pattern =>
      simp only
      split <;> rfl
  | label | captures | children => rfl

/- The captures keys of a rule are those of its fields. -/
theorem canonical_walkRule_iff
    (members : Json.Object) :
    (walkRule check members).Canonical ↔
      ∀ member ∈ members, ∀ field,
        Field.ofKey? member.1 = some field →
          (walkValue check field member.2).Canonical := by
  rw [walkRule, Walk.canonical_join_iff,
    and_iff_left
      (Walk.canonical_of_keys_eq_nil (keys_settled _)),
    Walk.Canonical, keys_walkMembers]
  simp only [List.mem_flatMap, forall_exists_index, and_imp]
  constructor
  · intro hKeys member hMember field hField groupKey hKey
    have hBelow :
        groupKey.below (.member member.1) ∈
          memberKeys check member := by
      rw [memberKeys, hField]
      exact List.mem_map_of_mem hKey
    have hKey := hKeys _ member hMember hBelow
    exact hKey
  · intro hFields groupKey member hMember hKey
    rw [memberKeys] at hKey
    cases hField : Field.ofKey? member.1 with
    | none =>
        rw [hField] at hKey
        cases hKey
    | some field =>
        rw [hField] at hKey
        exact
          (Walk.canonical_below_iff _ _).mpr
            (hFields member hMember field hField) groupKey hKey

/- The captures keys of captures are their own and nested ones. -/
theorem canonical_walkCaptures_iff
    (members : Json.Object) :
    (walkCaptures check members).Canonical ↔
      ∀ member ∈ members,
        IsCanonicalKey member.1 ∧
          (walkNested check member.2).Canonical := by
  induction members with
  | nil => simp [walkCaptures, Walk.Canonical, Walk.done]
  | cons member rest ih =>
      have hMeet :
          ∀ {α : Type} (key : String) (walk : Walk α),
            (walk.meet key).Canonical ↔
              IsCanonicalKey key ∧ walk.Canonical :=
        fun key walk => List.forall_mem_cons
      rw [walkCaptures, hMeet, Walk.canonical_join_iff,
        Walk.canonical_below_iff, ih, List.forall_mem_cons,
        and_assoc]

/- The captures keys of items are nested ones. -/
theorem canonical_walkItems_iff
    (position : Nat)
    (items : List Json.Value) :
    (walkItems check position items).Canonical ↔
      ∀ item ∈ items, (walkNested check item).Canonical := by
  induction items generalizing position with
  | nil => simp [walkItems, Walk.Canonical, Walk.done]
  | cons item rest ih =>
      rw [walkItems, Walk.canonical_join_iff,
        Walk.canonical_below_iff, ih, List.forall_mem_cons]

end Import

end TextMate
