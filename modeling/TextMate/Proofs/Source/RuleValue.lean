import TextMate.Proofs.Import.Assemble
import TextMate.Proofs.Rule.MapPatterns
import TextMate.Proofs.Source.RuleSource
import TextMate.Proofs.Source.TermValue

/-
  This file proves that the source of a rule comes to the rule
  with its patterns read back, where the items that the source
  names are imported.

  The record for a rule sets each of its fields, once, and the
  fields of a rule determine it.

  Main declarations:
    * `Rule.foldl_set_fields`
    * `sourceValue`
    * `build_fields`
    * `evaluate_ofRule`
-/

namespace TextMate

------------------------------------------------------------
-- Rules from Their Fields
------------------------------------------------------------

namespace Rule

/- A rule has the fields that are set, one after the other. -/
theorem foldl_set_fields
    (rule : Rule) :
    rule.fields.foldl
        (fun other entry => other.set entry.1 entry.2) .empty =
      rule := by
  let kept : Import.Outcomes :=
    rule.fields.map fun entry => (entry.1, some entry.2)
  have hKept : kept.map Prod.fst = rule.fields.map Prod.fst := by
    rw [List.map_map]
    rfl
  have hDistinct : (kept.map Prod.fst).Nodup := by
    rw [hKept]
    exact rule.nodup_fields
  have hMember :
      ∀ field value,
        (field, some value) ∈ kept ↔
          rule.get? field = some value := by
    intro field value
    rw [← rule.mem_fields_iff field value]
    simp [kept]
  have hAssemble :
      rule.fields.foldl
          (fun other entry => other.set entry.1 entry.2)
          .empty =
        Import.assemble .empty kept := by
    rw [Import.assemble, List.foldl_map]
  rw [hAssemble]
  apply ext_get?
  intro field
  rw [Import.get?_assemble hDistinct
    fun field value hKind =>
      kind_of_get? ((hMember field value).mp hKind)]
  rw [get?_empty, Option.or_none]
  apply Option.ext
  intro value
  rw [Option.join_eq_some_iff, lookup_eq_some_iff_mem hDistinct,
    hMember]

/- A replacement of patterns replaces the fields in place. -/
theorem fields_mapPatterns
    (change : PatternValue → PatternValue)
    (rule : Rule) :
    (rule.mapPatterns change).fields =
      rule.fields.map fun entry =>
        (entry.1, entry.2.mapPatterns change) := by
  unfold fields
  rw [List.map_filterMap]
  congr 1
  funext field
  rw [get?_mapPatterns]
  cases rule.get? field <;> rfl

/- A rule has all fields if it lists as many as there are. -/
theorem map_fst_fields_eq_all
    {rule : Rule}
    (hLength : rule.fields.length = Field.all.length) :
    rule.fields.map Prod.fst = Field.all := by
  rw [map_fst_fields, List.filter_eq_self]
  rw [← List.length_map Prod.fst, map_fst_fields] at hLength
  exact List.length_filter_eq_length_iff.mp hLength

end Rule

namespace Source

------------------------------------------------------------
-- Values of Fields
------------------------------------------------------------

/- What the source of the value of a field comes to. -/
def sourceValue : FieldValue → Value
  | .pattern (.compiled pattern) =>
      .converted (.pattern (.ofText pattern.text))
  | .pattern (.verbatim text) => .patternValue (.verbatim text)
  | .label value => .converted (.text value)
  | .captures entries =>
      .captures
        (entries.map fun entry =>
          (entry.1, entry.2.mapPatterns .reread))
  | .children rules =>
      .vector
        (rules.map fun rule => .rule (rule.mapPatterns .reread))

/- The value is read as that of a field of its kind. -/
theorem fieldValue?_sourceValue
    (value : FieldValue) :
    (sourceValue value).fieldValue? value.kind =
      some (value.mapPatterns .reread) := by
  cases value with
  | pattern value => cases value <;> rfl
  | label value => rfl
  | captures entries => rfl
  | children rules =>
      have hRules :
          (rules.map fun rule =>
              Value.rule (rule.mapPatterns .reread)).mapM
              Value.rule? =
            some
              (rules.map fun rule =>
                rule.mapPatterns .reread) :=
        mapM_map_eq_some fun _ _ => rfl
      show
        (Value.rules? (sourceValue (.children rules))).map
            FieldValue.children = _
      rw [sourceValue, Value.rules?, hRules]
      rfl

/- The entry of a group is read with its index. -/
theorem group?_pair
    (index : UInt32)
    (rule : Rule) :
    (Value.pair (.number index.toNat) (.rule rule)).group? =
      some (index, rule) := by
  rw [Value.group?, if_pos index.toNat_lt_size,
    UInt32.ofNat_toNat]

section Values

variable {names : Names}

/- A rule comes to the rule with its patterns read back. -/
def Rebuilds
    (names : Names)
    (rule : Rule) : Prop :=
  (ofRule rule).term.evaluate names =
    .ok (.rule (rule.mapPatterns .reread))

/- Captures come to the captures, where their rules do. -/
theorem evaluate_capturesOf
    {entries : Captures}
    (hAscending : entries.Ascending)
    (hCovers :
      names.Covers (capturesOf (entries.map ofGroup)).items)
    (hRules : ∀ entry ∈ entries, Rebuilds names entry.2) :
    (capturesOf (entries.map ofGroup)).term.evaluate names =
      .ok (sourceValue (.captures entries)) := by
  have hImported : Item.captures.name ∈ names.imports := by
    apply hCovers
    unfold capturesOf
    split <;> exact List.mem_cons_self
  unfold capturesOf
  split
  · rename_i hNone
    rw [List.isEmpty_iff, List.map_eq_nil_iff] at hNone
    subst hNone
    exact evaluate_constant hImported rfl
  · have hParts :
        Term.evaluateAll names
            ((entries.map ofGroup).map Expr.term) =
          .ok
            (entries.map fun entry =>
              .pair (.number entry.1.toNat)
                (.rule (entry.2.mapPatterns .reread))) := by
      rw [List.map_map]
      exact
        evaluateAll_map fun entry hEntry =>
          evaluate_pair rfl (hRules entry hEntry)
    have hGroups :
        (entries.map fun entry =>
            Value.pair (.number entry.1.toNat)
              (.rule (entry.2.mapPatterns .reread))).mapM
            Value.group? =
          some
            (entries.map fun entry =>
              (entry.1, entry.2.mapPatterns .reread)) :=
      mapM_map_eq_some fun entry _ => group?_pair _ _
    have hKeyed :
        Captures.ofList
            (entries.map fun entry =>
              (entry.1, entry.2.mapPatterns .reread)) =
          entries.map fun entry =>
            (entry.1, entry.2.mapPatterns .reread) :=
      Captures.ofList_eq_self (List.pairwise_map.mpr hAscending)
    apply evaluate_apply hImported (evaluate_array hParts)
    show
      ((List.mapM Value.group? _).map fun groups =>
          Value.captures (Captures.ofList groups)) = _
    rw [hGroups, Option.map_some, hKeyed]
    rfl

/- The value of a field comes to its value in source. -/
theorem evaluate_ofFieldValue
    {value : FieldValue}
    (hKeyed : value.Keyed)
    (hCovers : names.Covers (ofFieldValue value).items)
    (hInner : ∀ inner ∈ value.rules, Rebuilds names inner) :
    (ofFieldValue value).term.evaluate names =
      .ok (sourceValue value) := by
  cases value with
  | pattern value =>
      cases value with
      | compiled pattern =>
          have hImported := (Names.Covers.cons hCovers).1
          exact
            evaluate_converted
              (evaluate_apply hImported rfl rfl)
      | verbatim text =>
          have hImported := (Names.Covers.cons hCovers).1
          exact evaluate_apply hImported rfl rfl
  | label value => rfl
  | captures entries =>
      apply evaluate_capturesOf hKeyed hCovers
      intro entry hEntry
      exact hInner entry.2 (List.mem_map_of_mem hEntry)
  | children rules =>
      apply evaluate_vector
      rw [List.map_map]
      exact evaluateAll_map hInner

------------------------------------------------------------
-- Records
------------------------------------------------------------

/- The field of a record for a rule, with its value. -/
def valueField
    (entry : Field × FieldValue) : String × Value :=
  (fieldName entry.1, .present (sourceValue entry.2))

/- A field is found by its name. -/
theorem lookup_ruleFields
    (field : Field) :
    ruleFields.lookup (fieldName field) = some field := by
  cases field <;> rfl

/- Different fields have different names in source. -/
theorem fieldName_injective : Function.Injective fieldName := by
  intro first second hName
  have hFound := lookup_ruleFields first
  rw [hName, lookup_ruleFields second] at hFound
  exact (Option.some.inj hFound).symm

/- A field of a record sets the field of the rule. -/
theorem setRuleField_valueField
    {field : Field}
    {value : FieldValue}
    (hKind : value.kind = field.kind)
    (rule : Rule) :
    setRuleField rule (valueField (field, value)) =
      some (rule.set field (value.mapPatterns .reread)) := by
  have hValue := fieldValue?_sourceValue value
  rw [hKind] at hValue
  simp only [setRuleField, valueField, lookup_ruleFields,
    Value.present?, Option.bind_eq_bind, Option.bind_some,
    hValue]
  rfl

/- The fields of a rule build it with its patterns read back. -/
theorem build_fields
    {rule : Rule}
    {base? : Option Rule}
    (hEmpty : base?.getD .empty = .empty)
    (hWhole :
      base?.isSome = true ∨
        rule.fields.length = Field.all.length) :
    build (ruleFields.map Prod.fst) setRuleField .empty
        (rule.fields.map valueField) base? =
      some (rule.mapPatterns .reread) := by
  have hNames :
      (rule.fields.map valueField).map Prod.fst =
        (rule.fields.map Prod.fst).map fieldName := by
    rw [List.map_map, List.map_map]
    rfl
  have hDistinct :
      ((rule.fields.map valueField).map Prod.fst).Nodup := by
    rw [hNames]
    exact rule.nodup_fields.map fieldName_injective
  have hGiven :
      base?.isSome = true ∨
        ∀ name ∈ ruleFields.map Prod.fst,
          name ∈ (rule.fields.map valueField).map Prod.fst := by
    refine hWhole.imp_right fun hLength => ?_
    rw [hNames, Rule.map_fst_fields_eq_all hLength]
    decide
  have hSteps :
      ∀ (entries : List (Field × FieldValue)) (other : Rule),
        (∀ entry ∈ entries, entry.2.kind = entry.1.kind) →
          (entries.map valueField).foldlM setRuleField other =
            some
              (entries.foldl
                (fun other entry =>
                  other.set entry.1
                    (entry.2.mapPatterns .reread))
                other) := by
    intro entries
    induction entries with
    | nil => exact fun _ _ => rfl
    | cons entry entries ih =>
        intro other hKinds
        have hKind := hKinds entry List.mem_cons_self
        rw [List.map_cons, List.foldlM_cons,
          setRuleField_valueField hKind]
        exact
          ih _ fun entry hEntry =>
            hKinds entry (List.mem_cons_of_mem _ hEntry)
  have hFields := (rule.mapPatterns .reread).foldl_set_fields
  rw [Rule.fields_mapPatterns, List.foldl_map] at hFields
  rw [build, if_pos ⟨hDistinct, hGiven⟩, hEmpty,
    hSteps _ _ fun entry hEntry =>
      Rule.kind_of_get? ((rule.mem_fields_iff _ _).mp hEntry),
    hFields]

/- The items of a record are imported if all it names are. -/
theorem Names.Covers.recordOf
    {item : Item}
    {fields : List (String × Expr)}
    {isComplete : Bool}
    (hCovers :
      names.Covers (recordOf item fields isComplete).items) :
    item.name ∈ names.imports ∧
      names.Covers (Expr.fieldItems fields) := by
  unfold Source.recordOf at hCovers
  split at hCovers
  · rename_i hNone
    rw [List.isEmpty_iff] at hNone
    subst hNone
    exact hCovers.cons
  · exact hCovers.cons

/- The items of the rules in a value are imported with it. -/
theorem Names.Covers.inner
    {value : FieldValue}
    (hCovers : names.Covers (ofFieldValue value).items)
    {inner : Rule}
    (hInner : inner ∈ value.rules) :
    names.Covers (ofRule inner).items := by
  cases value with
  | pattern value => exact absurd hInner List.not_mem_nil
  | label value => exact absurd hInner List.not_mem_nil
  | captures entries =>
      rcases List.mem_map.mp hInner with ⟨entry, hEntry, rfl⟩
      have hPart : ofGroup entry ∈ entries.map ofGroup :=
        List.mem_map_of_mem hEntry
      have hSome : (entries.map ofGroup).isEmpty = false :=
        List.isEmpty_eq_false_iff_exists_mem.mpr ⟨_, hPart⟩
      rw [ofFieldValue, capturesOf, hSome] at hCovers
      have hArray := hCovers.cons.2.part List.mem_cons_self
      have hGroup : names.Covers (ofGroup entry).items :=
        hArray.part hPart
      exact hGroup
  | children rules =>
      exact hCovers.part (List.mem_map_of_mem hInner)

/- The items of the value of a field are imported with it. -/
theorem Names.Covers.value
    {rule : Rule}
    (hCovers :
      names.Covers (Expr.fieldItems (recordFields rule)))
    {entry : Field × FieldValue}
    (hEntry : entry ∈ rule.fields) :
    names.Covers (ofFieldValue entry.2).items := by
  have hField : ofField entry ∈ recordFields rule :=
    List.mem_map_of_mem hEntry
  exact (hCovers.field hField).part List.mem_cons_self

/- The record for a rule builds it, as its patterns are read. -/
theorem evaluate_recordOf
    {rule : Rule}
    (hImported : Item.scope.name ∈ names.imports)
    (hValues :
      Term.evaluateFields names
          (Expr.fieldTerms (recordFields rule)) =
        .ok (rule.fields.map valueField)) :
    (recordOf .scope (recordFields rule)
        (hasAllFields (recordFields rule))).term.evaluate
          names =
      .ok (.rule (rule.mapPatterns .reread)) := by
  unfold recordOf
  split
  · rename_i hNone
    rw [List.isEmpty_iff, recordFields, List.map_eq_nil_iff]
      at hNone
    have hBuilt :=
      @build_fields rule (some .empty) rfl (Or.inl rfl)
    have hEmpty : rule.mapPatterns .reread = .empty := by
      rw [hNone] at hBuilt
      exact (Option.some.inj hBuilt).symm
    rw [hEmpty]
    exact evaluate_constant hImported rfl
  · refine
      @evaluate_record _ _ _ _ _ (.rule .empty) _ hImported
        hValues rfl ?_
    have hLength :
        hasAllFields (recordFields rule) = true →
          rule.fields.length = Field.all.length := by
      intro hAll
      have hAll := eq_of_beq hAll
      rwa [recordFields, List.length_map] at hAll
    cases hAll : hasAllFields (recordFields rule) with
    | true =>
        have hBuilt :=
          @build_fields rule none rfl (Or.inr (hLength hAll))
        show (build _ _ _ _ none).map Value.rule = _
        rw [hBuilt]
        rfl
    | false =>
        have hBuilt :=
          @build_fields rule (some .empty) rfl (Or.inl rfl)
        show (build _ _ _ _ (some .empty)).map Value.rule = _
        rw [hBuilt]
        rfl

/- The source of a rule comes to it, as its patterns are read. -/
theorem evaluate_ofRule
    {rule : Rule}
    (hKeyed : rule.Keyed)
    (hCovers : names.Covers (ofRule rule).items) :
    Rebuilds names rule := by
  induction rule using Rule.induction with
  | step rule ih =>
      rw [ofRule_eq] at hCovers
      rcases hCovers.recordOf with ⟨hImported, hFields⟩
      rw [Rebuilds, ofRule_eq]
      apply evaluate_recordOf hImported
      rw [Expr.fieldTerms_eq_map, recordFields, List.map_map]
      refine evaluateFields_map fun entry hEntry => ?_
      have hValue :=
        (rule.mem_fields_iff entry.1 entry.2).mp hEntry
      have hItems := hFields.value hEntry
      apply evaluate_present
      apply evaluate_ofFieldValue (hKeyed.own hValue) hItems
      intro inner hInner
      exact
        ih entry.1 entry.2 hValue inner hInner
          (hKeyed.nested hValue hInner) (hItems.inner hInner)

end Values

end Source

end TextMate
