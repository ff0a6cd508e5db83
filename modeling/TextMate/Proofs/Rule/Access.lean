import TextMate.Rule

/-
  This file treats a rule as a table from fields to values.

  A rule is determined by what `get?` gives, so a property of
  a rule is proved for an arbitrary field and not for each of
  the twelve in turn.  The rules nested in a rule are those in
  the values of its fields, and `Rule.induction` is induction
  on this nesting.

  Main declarations:
    * `Rule.ext_get?`
    * `Rule.get?_set`
    * `Rule.get?_erase`
    * `Rule.mem_fields_iff`
    * `FieldValue.rules`
    * `Rule.induction`
-/

namespace TextMate

------------------------------------------------------------
-- Fields
------------------------------------------------------------

/- No field is listed twice. -/
theorem Field.nodup_all : Field.all.Nodup := by
  decide

/- A field is found by its own key alone. -/
theorem Field.ofKey?_eq_some_iff
    {key : String}
    {field : Field} :
    Field.ofKey? key = some field ↔ key = field.key := by
  constructor
  · intro hFound
    have hKey := List.find?_some hFound
    exact (eq_of_beq hKey).symm
  · rintro rfl
    exact Field.ofKey?_key field

namespace Rule

------------------------------------------------------------
-- Rules as Tables
------------------------------------------------------------

/- A rule without fields gives nothing. -/
@[simp] theorem get?_empty
    (field : Field) :
    Rule.empty.get? field = none := by
  cases field <;> rfl

/- A value is of the kind of its field. -/
theorem kind_of_get?
    {rule : Rule}
    {field : Field}
    {value : FieldValue}
    (hValue : rule.get? field = some value) :
    value.kind = field.kind := by
  cases field <;>
    · simp only [get?, Option.map_eq_some_iff] at hValue
      rcases hValue with ⟨inner, -, rfl⟩
      rfl

/- Rules that give the same values are equal. -/
theorem ext_get?
    {x y : Rule}
    (hGet : ∀ field, x.get? field = y.get? field) :
    x = y := by
  have hMap :
      ∀ {α : Type} {wrap : α → FieldValue} {a b : Option α},
        Function.Injective wrap →
          a.map wrap = b.map wrap → a = b :=
    fun hWrap hEqual =>
      Option.map_injective hWrap hEqual
  have hPattern : Function.Injective FieldValue.pattern :=
    fun _ _ hEqual => FieldValue.pattern.inj hEqual
  have hLabel : Function.Injective FieldValue.label :=
    fun _ _ hEqual => FieldValue.label.inj hEqual
  have hCaptures : Function.Injective FieldValue.captures :=
    fun _ _ hEqual => FieldValue.captures.inj hEqual
  have hChildren : Function.Injective FieldValue.children :=
    fun _ _ hEqual => FieldValue.children.inj hEqual
  cases x
  cases y
  simp only [Rule.mk.injEq]
  exact
    ⟨hMap hLabel (hGet .includeTarget),
      hMap hPattern (hGet .matchPattern),
      hMap hPattern (hGet .beginPattern),
      hMap hPattern (hGet .endPattern),
      hMap hPattern (hGet .whilePattern),
      hMap hLabel (hGet .name),
      hMap hLabel (hGet .contentName),
      hMap hCaptures (hGet .captures),
      hMap hCaptures (hGet .beginCaptures),
      hMap hCaptures (hGet .endCaptures),
      hMap hCaptures (hGet .whileCaptures),
      hMap hChildren (hGet .patterns)⟩

/- A field that is set has its value, and no other changes. -/
theorem get?_set
    (rule : Rule)
    {field : Field}
    {value : FieldValue}
    (hKind : value.kind = field.kind)
    (other : Field) :
    (rule.set field value).get? other =
      if field = other then some value
      else rule.get? other := by
  cases field <;> cases value <;> cases hKind <;>
    cases other <;> rfl

/- A field that is removed is gone, and no other changes. -/
theorem get?_erase
    (rule : Rule)
    (field other : Field) :
    (rule.erase field).get? other =
      if field = other then none else rule.get? other := by
  cases field <;> cases other <;> rfl

/- Removing fields in order removes them all. -/
theorem get?_foldl_erase
    (fields : List Field)
    (rule : Rule)
    (other : Field) :
    (fields.foldl erase rule).get? other =
      if other ∈ fields then none else rule.get? other := by
  induction fields generalizing rule with
  | nil => simp
  | cons field fields ih =>
      rw [List.foldl_cons, ih, get?_erase]
      by_cases hRest : other ∈ fields
      · simp [hRest]
      · by_cases hFirst : field = other
        · simp [hFirst]
        · simp [hRest, hFirst, Ne.symm hFirst]

/- The fields of a rule are those that `get?` gives. -/
theorem mem_fields_iff
    (rule : Rule)
    (field : Field)
    (value : FieldValue) :
    (field, value) ∈ rule.fields ↔
      rule.get? field = some value := by
  simp only [fields, List.mem_filterMap,
    Option.map_eq_some_iff, Prod.mk.injEq]
  constructor
  · rintro ⟨_, -, _, hValue, rfl, rfl⟩
    exact hValue
  · intro hValue
    exact ⟨field, Field.mem_all field, value, hValue, rfl, rfl⟩

/- The list of the fields of a rule, field by field. -/
theorem fields_eq_flatMap
    (rule : Rule) :
    rule.fields =
      Field.all.flatMap fun field =>
        (rule.get? field).toList.map fun value =>
          (field, value) := by
  unfold fields
  induction Field.all with
  | nil => rfl
  | cons field others ih =>
      rw [List.flatMap_cons, ← ih]
      cases hGet : rule.get? field with
      | none =>
          rw [List.filterMap_cons_none (by simp [hGet])]
          rfl
      | some value =>
          rw [List.filterMap_cons_some (by simp [hGet]; rfl)]
          rfl

/- The fields of a rule are in canonical order. -/
theorem map_fst_fields
    (rule : Rule) :
    rule.fields.map Prod.fst = Field.all.filter rule.has := by
  unfold fields
  induction Field.all with
  | nil => rfl
  | cons field others ih =>
      cases hGet : rule.get? field with
      | none =>
          rw [List.filterMap_cons_none (by simp [hGet]), ih,
            List.filter_cons_of_neg (by simp [has, hGet])]
      | some value =>
          rw [List.filterMap_cons_some (by simp [hGet]; rfl),
            List.map_cons, ih,
            List.filter_cons_of_pos (by simp [has, hGet])]

/- No field of a rule is listed twice. -/
theorem nodup_fields
    (rule : Rule) :
    (rule.fields.map Prod.fst).Nodup := by
  rw [map_fst_fields]
  exact Field.nodup_all.filter _

end Rule

------------------------------------------------------------
-- Nesting
------------------------------------------------------------

/- The rules that stand in a value, in order. -/
def FieldValue.rules : FieldValue → List Rule
  | .pattern _ | .label _ => []
  | .captures value => value.map Prod.snd
  | .children value => value

namespace Rule

/- The value of a field is smaller than its rule. -/
theorem sizeOf_lt_of_get?
    {rule : Rule}
    {field : Field}
    {value : FieldValue}
    (hValue : rule.get? field = some value) :
    sizeOf value < sizeOf rule := by
  cases field <;>
    · simp only [get?, Option.map_eq_some_iff] at hValue
      rcases hValue with ⟨stored, hStored, rfl⟩
      cases rule
      simp only at hStored
      subst hStored
      simp only [Rule.mk.sizeOf_spec, Option.some.sizeOf_spec,
        FieldValue.label.sizeOf_spec,
        FieldValue.pattern.sizeOf_spec,
        FieldValue.captures.sizeOf_spec,
        FieldValue.children.sizeOf_spec]
      omega

/- A rule that stands in a value is smaller than the value. -/
theorem sizeOf_lt_of_mem_rules
    {value : FieldValue}
    {inner : Rule}
    (hInner : inner ∈ value.rules) :
    sizeOf inner < sizeOf value := by
  cases value with
  | pattern value => exact absurd hInner List.not_mem_nil
  | label value => exact absurd hInner List.not_mem_nil
  | captures entries =>
      rcases List.mem_map.mp hInner with
        ⟨⟨index, nested⟩, hEntry, rfl⟩
      have hSize := List.sizeOf_lt_of_mem hEntry
      simp only [Prod.mk.sizeOf_spec,
        FieldValue.captures.sizeOf_spec] at hSize ⊢
      omega
  | children rules =>
      have hSize : sizeOf inner < sizeOf rules :=
        List.sizeOf_lt_of_mem hInner
      simp only [FieldValue.children.sizeOf_spec]
      omega

/-
  What holds of a rule whenever it holds of the rules nested
  in its fields holds of every rule.
-/
theorem induction
    {motive : Rule → Prop}
    (step :
      ∀ rule : Rule,
        (∀ field value, rule.get? field = some value →
          ∀ inner ∈ value.rules, motive inner) →
        motive rule)
    (rule : Rule) :
    motive rule := by
  apply step
  intro field value hValue inner hInner
  have hValueSize := sizeOf_lt_of_get? hValue
  have hInnerSize := sizeOf_lt_of_mem_rules hInner
  exact induction step inner
termination_by sizeOf rule

end Rule

end TextMate
