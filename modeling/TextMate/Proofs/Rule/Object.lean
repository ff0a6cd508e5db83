import TextMate.Export
import TextMate.Proofs.Import.GroupIndex
import TextMate.Proofs.Rule.Every

/-
  This file describes the exported form of a rule by its
  fields: one member for each field that the rule has, in
  canonical order, with the JSON value of the field.

  Main declarations:
    * `FieldValue.toValue`
    * `Rule.toObject_eq_map`
    * `Rule.nodup_keys_toObject`
-/

namespace TextMate

/- The JSON value of a field. -/
def FieldValue.toValue : FieldValue → Json.Value
  | .pattern value => .string value.toText
  | .label value => .string value
  | .captures entries =>
      .object
        (entries.map fun entry =>
          (toString entry.1.toNat, .object entry.2.toObject))
  | .children rules =>
      .array (rules.map fun rule => .object rule.toObject)

namespace Rule

theorem groupMembers_eq_map
    (captures : Captures) :
    groupMembers captures =
      captures.map fun entry =>
        (toString entry.1.toNat, .object entry.2.toObject) := by
  induction captures with
  | nil => rfl
  | cons entry rest ih =>
      rw [groupMembers, ih]
      rfl

theorem toItems_eq_map
    (rules : List Rule) :
    toItems rules =
      rules.map fun rule => .object rule.toObject := by
  induction rules with
  | nil => rfl
  | cons rule rest ih =>
      rw [toItems, ih]
      rfl

/- The members of a rule are those of its fields in order. -/
theorem toObject_eq_map
    (rule : Rule) :
    rule.toObject =
      rule.fields.map fun entry =>
        (entry.1.key, entry.2.toValue) := by
  have hLabel :
      ∀ (field : Field) (label : Option String),
        labelMember field label =
          (label.map FieldValue.label).toList.map fun value =>
            (field.key, value.toValue) := by
    intro field label
    cases label <;> rfl
  have hPattern :
      ∀ (field : Field) (pattern : Option PatternValue),
        patternMember field pattern =
          (pattern.map FieldValue.pattern).toList.map fun value =>
            (field.key, value.toValue) := by
    intro field pattern
    cases pattern <;> rfl
  have hCaptures :
      ∀ (field : Field) (captures : Option Captures),
        capturesMember field captures =
          (captures.map FieldValue.captures).toList.map fun value =>
            (field.key, value.toValue) := by
    intro field captures
    cases captures with
    | none => rfl
    | some captures =>
        rw [capturesMember, groupMembers_eq_map]
        rfl
  have hChildren :
      ∀ (field : Field) (rules : Option (List Rule)),
        childrenMember field rules =
          (rules.map FieldValue.children).toList.map fun value =>
            (field.key, value.toValue) := by
    intro field rules
    cases rules with
    | none => rfl
    | some rules =>
        rw [childrenMember, toItems_eq_map]
        rfl
  cases rule
  simp only [toObject, fields_eq_flatMap, Field.all,
    List.flatMap_cons, List.flatMap_nil, List.append_nil,
    List.map_append, List.map_map, Function.comp_def, get?,
    hLabel, hPattern, hCaptures, hChildren,
    List.append_assoc]

/- No key is written twice. -/
theorem nodup_keys_toObject
    (rule : Rule) :
    (rule.toObject.map Prod.fst).Nodup := by
  have hFields := rule.nodup_fields
  rw [toObject_eq_map, List.map_map]
  rw [List.nodup_iff_pairwise_ne, List.pairwise_map] at hFields ⊢
  refine hFields.imp ?_
  intro x y hDistinct hKey
  exact hDistinct (Field.key_injective hKey)

/- No captures key is written twice. -/
theorem nodup_keys_groupMembers
    {entries : Captures}
    (hAscending : entries.Ascending) :
    (Json.Object.keys
      (entries.map fun entry =>
        (toString entry.1.toNat,
          Json.Value.object entry.2.toObject))).Nodup := by
  rw [Json.Object.keys, List.map_map,
    List.nodup_iff_pairwise_ne, List.pairwise_map]
  refine hAscending.imp ?_
  intro x y hLess hText
  rw [Function.comp_apply, Function.comp_apply] at hText
  have hEqual := Import.toString_index_injective hText
  rw [hEqual] at hLess
  exact UInt32.lt_irrefl _ hLess

/- The members of an exported rule are those of its fields. -/
theorem mem_toObject_iff
    (rule : Rule)
    (member : String × Json.Value) :
    member ∈ rule.toObject ↔
      ∃ field value, rule.get? field = some value ∧
        member = (field.key, value.toValue) := by
  rw [toObject_eq_map, List.mem_map]
  constructor
  · rintro ⟨⟨field, value⟩, hField, rfl⟩
    exact
      ⟨field, value, (rule.mem_fields_iff _ _).mp hField, rfl⟩
  · rintro ⟨field, value, hValue, rfl⟩
    exact
      ⟨(field, value), (rule.mem_fields_iff _ _).mpr hValue,
        rfl⟩

end Rule

end TextMate
