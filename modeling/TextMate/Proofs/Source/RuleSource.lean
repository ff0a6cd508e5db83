import TextMate.Source.OfGrammar
import TextMate.Proofs.Rule.Access
import TextMate.Proofs.Source.Spacing

/-
  This file describes the source of a rule by its fields: a
  record with the source of each field that the rule has, in
  canonical order.  All that the source of a rule or a grammar
  names has a name.

  Main declarations:
    * `ofFieldValue`
    * `recordFields`
    * `ofRule_eq`
    * `isNamed_ofRule`
    * `isNamed_ofGrammar`
-/

namespace TextMate

namespace Source

------------------------------------------------------------
-- Fields
------------------------------------------------------------

/- The source of the entry of a group. -/
def ofGroup
    (entry : UInt32 × Rule) : Expr :=
  .pair (.number entry.1.toNat) (ofRule entry.2)

/- The source of the value of a field. -/
def ofFieldValue : FieldValue → Expr
  | .pattern value => ofPattern value
  | .label value => .owned value
  | .captures entries => capturesOf (entries.map ofGroup)
  | .children rules => .vector (rules.map ofRule)

/- The source of a field with its value. -/
def ofField
    (entry : Field × FieldValue) : String × Expr :=
  presentField entry.1 (ofFieldValue entry.2)

/- The fields of the record for a rule. -/
def recordFields
    (rule : Rule) : List (String × Expr) :=
  rule.fields.map ofField

theorem ofGroups_eq_map
    (captures : Captures) :
    ofGroups captures = captures.map ofGroup := by
  induction captures with
  | nil => rfl
  | cons entry rest ih =>
      rw [ofGroups, ih]
      rfl

theorem ofRules_eq_map
    (rules : List Rule) :
    ofRules rules = rules.map ofRule := by
  induction rules with
  | nil => rfl
  | cons rule rest ih =>
      rw [ofRules, ih]
      rfl

/- The source of a rule is a record of its fields in order. -/
theorem ofRule_eq
    (rule : Rule) :
    ofRule rule =
      recordOf .scope (recordFields rule)
        (hasAllFields (recordFields rule)) := by
  have hLabel :
      ∀ (field : Field) (label : Option String),
        labelField field label =
          (label.map FieldValue.label).toList.map fun value =>
            ofField (field, value) := by
    intro field label
    cases label <;> rfl
  have hPattern :
      ∀ (field : Field) (pattern : Option PatternValue),
        patternField field pattern =
          (pattern.map FieldValue.pattern).toList.map fun value =>
            ofField (field, value) := by
    intro field pattern
    cases pattern <;> rfl
  have hCaptures :
      ∀ (field : Field) (captures : Option Captures),
        capturesField field captures =
          (captures.map FieldValue.captures).toList.map
            fun value => ofField (field, value) := by
    intro field captures
    cases captures with
    | none => rfl
    | some captures =>
        rw [capturesField, ofGroups_eq_map]
        rfl
  have hChildren :
      ∀ (field : Field) (rules : Option (List Rule)),
        childrenField field rules =
          (rules.map FieldValue.children).toList.map fun value =>
            ofField (field, value) := by
    intro field rules
    cases rules with
    | none => rfl
    | some rules =>
        rw [childrenField, ofRules_eq_map]
        rfl
  cases rule
  simp only [ofRule, recordFields, Rule.fields_eq_flatMap,
    Field.all, List.flatMap_cons, List.flatMap_nil,
    List.append_nil, List.map_append, List.map_map,
    Function.comp_def, Rule.get?, hLabel, hPattern, hCaptures,
    hChildren, List.append_assoc]

------------------------------------------------------------
-- Names
------------------------------------------------------------

/- A record has names if its fields have. -/
theorem isNamed_recordOf
    {item : Item}
    {fields : List (String × Expr)}
    {isComplete : Bool}
    (hFields :
      ∀ field ∈ fields,
        isNameWord field.1 = true ∧ field.2.isNamed = true) :
    (recordOf item fields isComplete).isNamed = true := by
  have hDefault : isNameWord "default" = true := by decide
  unfold recordOf
  split
  · simp [Expr.constant, Expr.isNamed, Callee.isNamed,
      Expr.partsNamed, hDefault]
  · rw [Expr.isNamed, Expr.fieldsNamed_iff]
    exact hFields

/- A field has a name. -/
theorem isNameWord_fieldName
    (field : Field) :
    isNameWord (fieldName field) = true := by
  cases field <;> decide

/- A value has names if the rules that stand in it have. -/
theorem isNamed_ofFieldValue
    {value : FieldValue}
    (hInner :
      ∀ inner ∈ value.rules, (ofRule inner).isNamed = true) :
    (ofFieldValue value).isNamed = true := by
  have hWords :
      ∀ word ∈ ["new", "from", "Text"],
        isNameWord word = true := by
    decide
  simp only [List.forall_mem_cons] at hWords
  cases value with
  | pattern value =>
      cases value <;>
        simp [ofFieldValue, ofPattern, Expr.apply, Expr.isNamed,
          Callee.isNamed, Expr.partsNamed, hWords]
  | label value => rfl
  | captures entries =>
      have hGroups :
          ∀ part ∈ entries.map ofGroup, part.isNamed = true := by
        intro part hPart
        rcases List.mem_map.mp hPart with ⟨entry, hEntry, rfl⟩
        exact hInner entry.2 (List.mem_map_of_mem hEntry)
      rw [ofFieldValue, capturesOf]
      split
      · simp [Expr.constant, Expr.isNamed, Callee.isNamed,
          Expr.partsNamed, hWords]
      · rw [Expr.apply, Expr.isNamed, Callee.isNamed,
          hWords.2.1, Bool.true_and, Expr.partsNamed_iff]
        intro part hPart
        rw [List.mem_singleton.mp hPart, Expr.isNamed,
          Expr.partsNamed_iff]
        exact hGroups
  | children rules =>
      rw [ofFieldValue, Expr.isNamed, Expr.partsNamed_iff]
      intro part hPart
      rcases List.mem_map.mp hPart with ⟨rule, hRule, rfl⟩
      exact hInner rule hRule

/- A value that is there has names if the value has. -/
theorem isNamed_present
    {expr : Expr}
    (hNamed : expr.isNamed = true) :
    (Expr.present expr).isNamed = true := by
  have hSome : isNameWord "Some" = true := by decide
  simp [Expr.present, Expr.isNamed, Callee.isNamed,
    Expr.partsNamed, hSome, hNamed]

/- All that the source of a rule names has a name. -/
theorem isNamed_ofRule
    (rule : Rule) :
    (ofRule rule).isNamed = true := by
  induction rule using Rule.induction with
  | step rule ih =>
      rw [ofRule_eq]
      apply isNamed_recordOf
      intro field hField
      rcases List.mem_map.mp hField with
        ⟨⟨key, value⟩, hEntry, rfl⟩
      have hValue := (rule.mem_fields_iff key value).mp hEntry
      exact
        ⟨isNameWord_fieldName key,
          isNamed_present
            (isNamed_ofFieldValue (ih key value hValue))⟩

------------------------------------------------------------
-- Names in Grammars
------------------------------------------------------------

/- The source of a root field has names. -/
theorem isNamed_ofExtra
    (extra : String × ExtraValue) :
    (ofExtra extra).isNamed = true := by
  have hText : isNameWord "Text" = true := by decide
  have hList : isNameWord "List" = true := by decide
  rcases extra with ⟨key, value⟩
  cases value with
  | text value =>
      simp [ofExtra, ofExtraValue, Expr.owned, Expr.apply,
        Expr.isNamed, Callee.isNamed, Expr.partsNamed, hText]
  | list values =>
      have hRow :
          Expr.partsNamed (values.map .owned) = true := by
        rw [Expr.partsNamed_iff]
        intro part hPart
        rcases List.mem_map.mp hPart with ⟨value, -, rfl⟩
        rfl
      simp [ofExtra, ofExtraValue, Expr.owned, Expr.apply,
        Expr.isNamed, Callee.isNamed, Expr.partsNamed, hList,
        hRow]

/- A grammar has names if the identifiers of its links are. -/
theorem isNamed_ofGrammar
    (grammar : Grammar)
    {links : Links}
    (hLinks : ∀ link ∈ links, isNameWord link.2 = true) :
    (ofGrammar grammar links).isNamed = true := by
  have hWords :
      ∀ word ∈ ["Ok", "Some", "merge", "name", "scope_name",
          "injection_selector", "patterns", "repository",
          "extra"],
        isNameWord word = true := by
    decide
  simp only [List.forall_mem_cons] at hWords
  have hPatterns :
      Expr.partsNamed (ofRules grammar.patterns) = true := by
    rw [ofRules_eq_map, Expr.partsNamed_iff]
    intro part hPart
    rcases List.mem_map.mp hPart with ⟨rule, -, rfl⟩
    exact isNamed_ofRule rule
  have hEntries :
      Expr.partsNamed (links.map ofLink) = true := by
    rw [Expr.partsNamed_iff]
    intro part hPart
    rcases List.mem_map.mp hPart with ⟨link, hLink, rfl⟩
    simp [ofLink, Expr.isNamed, Callee.isNamed,
      Expr.partsNamed, hLinks link hLink]
  have hExtra :
      Expr.partsNamed (grammar.extra.map ofExtra) = true := by
    rw [Expr.partsNamed_iff]
    intro part hPart
    rcases List.mem_map.mp hPart with ⟨extra, -, rfl⟩
    exact isNamed_ofExtra extra
  have hFields :
      Expr.fieldsNamed (grammarFields grammar links) =
        true := by
    unfold grammarFields
    simp only [Expr.fieldsNamed_append, Bool.and_eq_true]
    refine ⟨⟨⟨⟨?texts, ?selector⟩, ?patterns⟩, ?entries⟩, ?extra⟩
    case texts =>
      simp [Expr.fieldsNamed, Expr.owned, Expr.isNamed, hWords]
    case selector =>
      cases grammar.injectionSelector with
      | none => rfl
      | some selector =>
          have hSelector :
              (Expr.present (.owned selector)).isNamed = true :=
            isNamed_present rfl
          simp [Expr.fieldsNamed, hWords, hSelector]
    case patterns =>
      simp [Expr.fieldsNamed, Expr.isNamed, hWords, hPatterns]
    case entries =>
      split
      · rfl
      · simp [Expr.fieldsNamed, Expr.apply, Expr.isNamed,
          Callee.isNamed, Expr.partsNamed, hWords, hEntries]
    case extra =>
      split
      · rfl
      · simp [Expr.fieldsNamed, Expr.isNamed, hWords, hExtra]
  simp [ofGrammar, Expr.isNamed, Callee.isNamed,
    Expr.partsNamed, hWords, hFields]

end Source

end TextMate
