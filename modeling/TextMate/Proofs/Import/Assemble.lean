import TextMate.Proofs.Import.Walk
import TextMate.Proofs.Lookup
import TextMate.Proofs.Rule.Access

/-
  This file proves what a walk over the members of a rule
  keeps.

  A value that is kept is of the kind of its field.  Where no
  key is used twice, the rule thus has exactly the fields that
  are kept, with their values: setting a field never fails and
  never undoes another.

  Main declarations:
    * `kind_of_walkValue`
    * `exists_object_of_walkValue`, `exists_array_of_walkValue`
    * `get?_assemble`
    * `mem_of_get?_assemble`
    * `get?_assemble_walkMembers`
-/

namespace TextMate

namespace Import

variable (check : Acceptance)

------------------------------------------------------------
-- Kinds of Values
------------------------------------------------------------

/- A value is only kept for a field of its kind. -/
theorem kind_of_walkValue
    {field : Field}
    {value : Json.Value}
    {kept : FieldValue}
    (hKept : (walkValue check field value).kept = some kept) :
    kept.kind = field.kind := by
  have hScalar : (walkScalar field).kept = none := by
    unfold walkScalar
    cases field.kind <;> rfl
  cases value with
  | null | bool _ | number _ =>
      rw [walkValue, hScalar] at hKept
      cases hKept
  | string text =>
      rw [walkValue] at hKept
      unfold walkText at hKept
      cases hKind : field.kind with
      | pattern =>
          simp only [hKind] at hKept
          split at hKept
          · cases hKept
          · cases hKept
            rfl
      | label =>
          simp only [hKind] at hKept
          cases hKept
          rfl
      | captures | children =>
          simp only [hKind] at hKept
          cases hKept
  | array items =>
      rw [walkValue] at hKept
      split at hKept
      · rename_i hKind
        cases hKept
        exact hKind.symm
      · rw [hScalar] at hKept
        cases hKept
  | object members =>
      rw [walkValue] at hKept
      split at hKept
      · rename_i hKind
        cases hKept
        exact hKind.symm
      · rw [hScalar] at hKept
        cases hKept

/- Captures that are kept are those of an object. -/
theorem exists_object_of_walkValue
    {field : Field}
    {value : Json.Value}
    {captures : Captures}
    (hKept :
      (walkValue check field value).kept =
        some (.captures captures)) :
    field.kind = .captures ∧
      ∃ entries, value = .object entries ∧
        .ofList (walkCaptures check entries).kept = captures := by
  have hKind : field.kind = .captures :=
    (kind_of_walkValue check hKept).symm
  refine ⟨hKind, ?_⟩
  cases value with
  | null | bool _ | number _ | string _ | array _ =>
      simp [walkValue, walkScalar, walkText, hKind, Walk.fault]
        at hKept
  | object entries =>
      simp only [walkValue, hKind, Walk.map, Option.some.injEq,
        FieldValue.captures.injEq] at hKept
      exact ⟨entries, rfl, hKept⟩

/- Rules of a list that are kept are those of an array. -/
theorem exists_array_of_walkValue
    {field : Field}
    {value : Json.Value}
    {rules : List Rule}
    (hKept :
      (walkValue check field value).kept =
        some (.children rules)) :
    field.kind = .children ∧
      ∃ items, value = .array items ∧
        (walkItems check 0 items).kept = rules := by
  have hKind : field.kind = .children :=
    (kind_of_walkValue check hKept).symm
  refine ⟨hKind, ?_⟩
  cases value with
  | null | bool _ | number _ | string _ | object _ =>
      simp [walkValue, walkScalar, walkText, hKind, Walk.fault]
        at hKept
  | array items =>
      simp only [walkValue, hKind, Walk.map, Option.some.injEq,
        FieldValue.children.injEq] at hKept
      exact ⟨items, rfl, hKept⟩

------------------------------------------------------------
-- Fields That Are Set
------------------------------------------------------------

/-
  Where no field comes twice, a rule to which fields are added
  has those that are kept, and its own where none is.
-/
theorem get?_assemble
    {outcomes : Outcomes}
    (hDistinct : (outcomes.map Prod.fst).Nodup)
    (hKinds :
      ∀ field value, (field, some value) ∈ outcomes →
        value.kind = field.kind)
    (rule : Rule)
    (field : Field) :
    (assemble rule outcomes).get? field =
      (outcomes.lookup field).join.or (rule.get? field) := by
  induction outcomes generalizing rule with
  | nil => rfl
  | cons outcome rest ih =>
      rcases outcome with ⟨first, kept⟩
      rw [List.map_cons, List.nodup_cons] at hDistinct
      have hRest :=
        ih hDistinct.2 fun field value hMember =>
          hKinds field value (List.mem_cons_of_mem _ hMember)
      rw [assemble, List.foldl_cons, ← assemble, hRest,
        List.lookup_cons]
      cases hFirst : field == first with
      | true =>
          -- The field that comes first does not come again.
          have hSame : field = first := eq_of_beq hFirst
          subst hSame
          rw [lookup_eq_none_of_not_mem hDistinct.1]
          cases kept with
          | none => rfl
          | some value =>
              have hKind :=
                hKinds field value List.mem_cons_self
              simp [Rule.get?_set _ hKind]
      | false =>
          have hOther : first ≠ field :=
            fun hEqual => ne_of_beq_false hFirst hEqual.symm
          cases kept with
          | none => rfl
          | some value =>
              have hKind :=
                hKinds first value List.mem_cons_self
              rw [Rule.get?_set _ hKind, if_neg hOther]

/- A rule has the fields that are among those to be set. -/
theorem mem_of_get?_assemble
    {outcomes : Outcomes}
    (hKinds :
      ∀ field value, (field, some value) ∈ outcomes →
        value.kind = field.kind)
    {rule : Rule}
    {field : Field}
    {value : FieldValue}
    (hValue : (assemble rule outcomes).get? field = some value) :
    (field, some value) ∈ outcomes ∨
      rule.get? field = some value := by
  induction outcomes generalizing rule with
  | nil => exact Or.inr hValue
  | cons outcome rest ih =>
      rcases outcome with ⟨first, kept⟩
      rw [assemble, List.foldl_cons, ← assemble] at hValue
      have hRest :=
        ih (fun field value hMember =>
          hKinds field value (List.mem_cons_of_mem _ hMember))
          hValue
      rcases hRest with hLater | hSet
      · exact Or.inl (List.mem_cons_of_mem _ hLater)
      · cases kept with
        | none => exact Or.inr hSet
        | some new =>
            have hKind :=
              hKinds first new List.mem_cons_self
            simp only [Rule.get?_set _ hKind] at hSet
            split at hSet
            · rename_i hSame
              subst hSame
              cases hSet
              exact Or.inl List.mem_cons_self
            · exact Or.inr hSet

/- The fields that are to be set are those of the members. -/
theorem mem_kept_walkMembers_iff
    {members : Json.Object}
    {field : Field}
    {kept : Option FieldValue} :
    (field, kept) ∈ (walkMembers check members).kept ↔
      ∃ value, (field.key, value) ∈ members ∧
        (walkValue check field value).kept = kept := by
  rw [kept_walkMembers, List.mem_filterMap]
  simp only [memberOutcome?, Option.map_eq_some_iff,
    Field.ofKey?_eq_some_iff, Prod.mk.injEq]
  constructor
  · rintro ⟨⟨_, value⟩, hMember, _, rfl, rfl, hKept⟩
    exact ⟨value, hMember, hKept⟩
  · rintro ⟨value, hMember, hKept⟩
    exact ⟨(field.key, value), hMember, field, rfl, rfl, hKept⟩

/- A field that is to be set gets a value of its kind. -/
theorem kind_of_mem_walkMembers
    {members : Json.Object}
    {field : Field}
    {value : FieldValue}
    (hKept :
      (field, some value) ∈ (walkMembers check members).kept) :
    value.kind = field.kind := by
  rcases (mem_kept_walkMembers_iff check).mp hKept with
    ⟨_, -, hValue⟩
  exact kind_of_walkValue check hValue

/- No field comes twice where no key does. -/
theorem nodup_fields_walkMembers
    {members : Json.Object}
    (hDistinct : (Json.Object.keys members).Nodup) :
    ((walkMembers check members).kept.map Prod.fst).Nodup := by
  rw [kept_walkMembers, List.nodup_iff_pairwise_ne,
    List.pairwise_map, List.pairwise_filterMap]
  rw [Json.Object.keys, List.nodup_iff_pairwise_ne,
    List.pairwise_map] at hDistinct
  refine hDistinct.imp ?_
  intro x y hKeys outcome hOutcome other hOther hEqual
  simp only [memberOutcome?, Option.map_eq_some_iff,
    Field.ofKey?_eq_some_iff] at hOutcome hOther
  rcases hOutcome with ⟨_, hFirst, rfl⟩
  rcases hOther with ⟨_, hSecond, rfl⟩
  rw [hFirst, hSecond] at hKeys
  exact hKeys (congrArg Field.key hEqual)

/-
  Where no key is used twice, the walk gives a field the value
  that is kept of the member with its key.
-/
theorem get?_assemble_walkMembers
    {members : Json.Object}
    (hDistinct : (Json.Object.keys members).Nodup)
    (field : Field)
    (kept : FieldValue) :
    (assemble .empty (walkMembers check members).kept).get?
        field = some kept ↔
      ∃ value, (field.key, value) ∈ members ∧
        (walkValue check field value).kept = some kept := by
  have hOutcomes := nodup_fields_walkMembers check hDistinct
  have hKinds :
      ∀ field value,
        (field, some value) ∈ (walkMembers check members).kept →
          value.kind = field.kind :=
    fun _ _ => kind_of_mem_walkMembers check
  rw [get?_assemble hOutcomes hKinds, Rule.get?_empty,
    Option.or_none, Option.join_eq_some_iff,
    lookup_eq_some_iff_mem hOutcomes,
    mem_kept_walkMembers_iff]

end Import

end TextMate
