import TextMate.Export
import TextMate.Import
import TextMate.Proofs.Json.Value

/-
  This file proves that the root fields that are not modelled
  are written as they were read, and read as they were
  written.

  Main declarations:
    * `Grammar.extraObject_eq_map`
    * `extraValue?_toValue`
    * `toValue_of_extraValue?`
-/

namespace TextMate

open Import

/- Root fields with distinct keys are all written, in order. -/
theorem Grammar.extraObject_eq_map
    {extra : List (String × ExtraValue)}
    (hDistinct : (extra.map Prod.fst).Nodup) :
    extraObject extra =
      extra.map fun field => (field.1, field.2.toValue) := by
  have hFold :
      ∀ (extra : List (String × ExtraValue))
        (before : Json.Object),
        (before.keys ++ extra.map Prod.fst).Nodup →
          extra.foldl
              (fun members field =>
                Json.Object.insert field.1 field.2.toValue
                  members)
              before =
            before ++ extra.map fun field =>
              (field.1, field.2.toValue) := by
    intro extra
    induction extra with
    | nil => exact fun before _ => (List.append_nil before).symm
    | cons field extra ih =>
        intro before hAll
        have hNew : field.1 ∉ before.keys := fun hOld =>
          (List.nodup_append.mp hAll).2.2 _ hOld _
            List.mem_cons_self rfl
        rw [List.foldl_cons,
          Json.Object.insert_of_not_mem hNew, ih,
          List.append_assoc]
        · rfl
        · rw [Json.Object.keys, List.map_append,
            List.append_assoc]
          exact hAll
  exact hFold extra [] hDistinct

/- A root field that is written is kept as it was. -/
theorem Import.extraValue?_toValue
    (value : ExtraValue) :
    extraValue? value.toValue = some value := by
  cases value with
  | text value => rfl
  | list values =>
      have hTexts :
          (values.map Json.Value.string).mapM
              Json.Value.text? =
            some values := by
        rw [List.mapM_map]
        induction values with
        | nil => rfl
        | cons value rest ih =>
            rw [List.mapM_cons, ih]
            rfl
      rw [ExtraValue.toValue, extraValue?, hTexts]
      rfl

/- A root field that is kept is written as it was. -/
theorem Import.toValue_of_extraValue?
    {value : Json.Value}
    {kept : ExtraValue}
    (hKept : extraValue? value = some kept) :
    kept.toValue = value := by
  have hTexts :
      ∀ (items : List Json.Value) (texts : List String),
        items.mapM Json.Value.text? = some texts →
          texts.map Json.Value.string = items := by
    intro items
    induction items with
    | nil =>
        intro texts hTexts
        cases hTexts
        rfl
    | cons item rest ih =>
        intro texts hTexts
        rw [List.mapM_cons] at hTexts
        cases item with
        | string text =>
            cases hRest : rest.mapM Json.Value.text? with
            | none =>
                rw [hRest] at hTexts
                cases hTexts
            | some others =>
                rw [hRest] at hTexts
                cases hTexts
                rw [List.map_cons, ih others hRest]
        | null | bool _ | number _ | array _ | object _ =>
            cases hTexts
  cases value with
  | string text =>
      cases hKept
      rfl
  | array items =>
      rcases Option.map_eq_some_iff.mp hKept with
        ⟨texts, hItems, rfl⟩
      exact congrArg Json.Value.array (hTexts items texts hItems)
  | null | bool _ | number _ | object _ => cases hKept

/- What is written for a root field equals itself. -/
theorem ExtraValue.same_toValue
    (value : ExtraValue) :
    value.toValue.same value.toValue = true := by
  cases value with
  | text value => exact beq_self_eq_true value
  | list values =>
      rw [toValue, Json.Value.same]
      induction values with
      | nil => rfl
      | cons value rest ih =>
          rw [List.map_cons, Json.sameItems, ih,
            Json.Value.same, beq_self_eq_true]
          rfl

end TextMate
