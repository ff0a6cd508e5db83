import Mathlib.Logic.Basic
import TextMate.Proofs.Source.RuleSource
import TextMate.Proofs.Source.TermValue

/-
  This file says which items of the library a rule or a grammar
  needs, and proves that these are the items in its source.

  What a rule needs is said by its fields, at any depth, and
  without a look at its source: the type of a rule, and for each
  field the type of its value, if the library has one.

  Main declarations:
    * `FieldValue.item?`
    * `Rule.Needs`
    * `GrammarNeeds`
    * `mem_items_ofRule_iff`
    * `mem_items_ofGrammar_iff`
-/

namespace TextMate

open Source (Item)

------------------------------------------------------------
-- Needs
------------------------------------------------------------

/- The type of the library that a value of a field has. -/
def FieldValue.item? : FieldValue → Option Item
  | .pattern (.compiled _) => some .pattern
  | .pattern (.verbatim _) => some .patternValue
  | .captures _ => some .captures
  | .label _ | .children _ => none

/- A rule needs an item for itself, a value, or a rule in one. -/
inductive Rule.Needs : Item → Rule → Prop where
  | scope
      {rule : Rule} :
      rule.Needs .scope
  | value
      {item : Item}
      {rule : Rule}
      {field : Field}
      {value : FieldValue}
      (hValue : rule.get? field = some value)
      (hItem : value.item? = some item) :
      rule.Needs item
  | nested
      {item : Item}
      {rule : Rule}
      {field : Field}
      {value : FieldValue}
      {inner : Rule}
      (hValue : rule.get? field = some value)
      (hInner : inner ∈ value.rules)
      (hNeeds : inner.Needs item) :
      rule.Needs item

namespace Source

/-
  A grammar needs items for itself and for its root rules, and
  others for links and for extra fields if there are any.  Its
  entries are in other files.
-/
inductive GrammarNeeds
    (grammar : Grammar)
    (links : Links) : Item → Prop where
  | grammar : GrammarNeeds grammar links .grammar
  | error : GrammarNeeds grammar links .error
  | rule
      {item : Item}
      {rule : Rule}
      (hRule : rule ∈ grammar.patterns)
      (hNeeds : rule.Needs item) :
      GrammarNeeds grammar links item
  | repository
      (hLinks : links ≠ []) :
      GrammarNeeds grammar links .repository
  | extraValue
      (hExtra : grammar.extra ≠ []) :
      GrammarNeeds grammar links .extraValue

------------------------------------------------------------
-- Items of Rules
------------------------------------------------------------

/- A record has its item and those of its fields. -/
theorem mem_items_recordOf_iff
    (item other : Item)
    (fields : List (String × Expr))
    (isComplete : Bool) :
    item ∈ (recordOf other fields isComplete).items ↔
      item = other ∨ ∃ field ∈ fields, item ∈ field.2.items := by
  cases fields with
  | nil =>
      simp [recordOf, Expr.constant, Expr.items, Expr.partItems,
        Callee.items]
  | cons field fields =>
      rw [recordOf, List.isEmpty_cons, if_neg Bool.false_ne_true,
        Expr.items, Expr.fieldItems_eq_flatMap, List.mem_cons,
        List.mem_flatMap]

/- A value has the item of its type and those of its rules. -/
theorem mem_items_ofFieldValue_iff
    (item : Item)
    (value : FieldValue) :
    item ∈ (ofFieldValue value).items ↔
      value.item? = some item ∨
        ∃ inner ∈ value.rules, item ∈ (ofRule inner).items := by
  cases value with
  | pattern value =>
      cases value <;>
        simp [ofFieldValue, ofPattern, Expr.apply, Expr.items,
          Expr.partItems, Callee.items, FieldValue.item?,
          FieldValue.rules, eq_comm]
  | label value =>
      simp [ofFieldValue, Expr.owned, Expr.items,
        FieldValue.item?, FieldValue.rules]
  | captures entries =>
      cases entries <;>
        simp [ofFieldValue, capturesOf, Expr.constant,
          Expr.apply, Expr.items, Expr.partItems_eq_flatMap,
          Callee.items, ofGroup, FieldValue.item?,
          FieldValue.rules, List.flatMap_map, eq_comm (a := item),
          -Prod.exists]
  | children rules =>
      simp [ofFieldValue, Expr.items, Expr.partItems_eq_flatMap,
        FieldValue.item?, FieldValue.rules]

/- The source of a rule has just the items that it needs. -/
theorem mem_items_ofRule_iff
    (item : Item)
    (rule : Rule) :
    item ∈ (ofRule rule).items ↔ rule.Needs item := by
  induction rule using Rule.induction with
  | step rule ih =>
      have hField :
          ∀ entry : Field × FieldValue,
            item ∈ (ofField entry).2.items ↔
              item ∈ (ofFieldValue entry.2).items := by
        intro entry
        simp [ofField, presentField, Expr.present, Expr.items,
          Expr.partItems, Callee.items]
      rw [ofRule_eq, mem_items_recordOf_iff, recordFields]
      constructor
      · rintro (rfl | ⟨_, hMember, hItem⟩)
        · exact .scope
        · rcases List.mem_map.mp hMember with
            ⟨⟨field, value⟩, hEntry, rfl⟩
          have hValue :=
            (rule.mem_fields_iff field value).mp hEntry
          rw [hField, mem_items_ofFieldValue_iff] at hItem
          rcases hItem with hOwn | ⟨inner, hInner, hItem⟩
          · exact .value hValue hOwn
          · exact
              .nested hValue hInner
                ((ih field value hValue inner hInner).mp hItem)
      · intro hNeeds
        have hGiven :
            ∀ {field value}, rule.get? field = some value →
              item ∈ (ofFieldValue value).items →
                ∃ entry ∈ rule.fields.map ofField,
                  item ∈ entry.2.items := by
          intro field value hValue hItem
          have hEntry :=
            (rule.mem_fields_iff field value).mpr hValue
          exact
            ⟨ofField (field, value), List.mem_map_of_mem hEntry,
              (hField _).mpr hItem⟩
        cases hNeeds with
        | scope => exact Or.inl rfl
        | value hValue hItem =>
            refine Or.inr (hGiven hValue ?_)
            exact
              (mem_items_ofFieldValue_iff _ _).mpr (.inl hItem)
        | @nested _ _ field value inner hValue hInner hNeeds =>
            refine Or.inr (hGiven hValue ?_)
            refine
              (mem_items_ofFieldValue_iff _ _).mpr
                (.inr ⟨inner, hInner, ?_⟩)
            exact (ih field value hValue inner hInner).mpr hNeeds

instance
    (item : Item)
    (rule : Rule) :
    Decidable (rule.Needs item) :=
  decidable_of_iff _ (mem_items_ofRule_iff item rule)

------------------------------------------------------------
-- Items of Grammars
------------------------------------------------------------

/- An extra field has one item, whatever its value is. -/
theorem items_ofExtra
    (extra : String × ExtraValue) :
    (ofExtra extra).items = [.extraValue] := by
  have hOwned :
      ∀ values : List String,
        Expr.partItems (values.map .owned) = [] := by
    intro values
    rw [Expr.partItems_eq_flatMap, List.flatMap_eq_nil_iff]
    intro part hPart
    rcases List.mem_map.mp hPart with ⟨value, -, rfl⟩
    rfl
  rcases extra with ⟨key, value⟩
  cases value with
  | text value => rfl
  | list values =>
      simp [ofExtra, ofExtraValue, Expr.apply, Expr.owned,
        Expr.items, Expr.partItems, Callee.items, hOwned]

/- A link calls a function of another file. -/
theorem items_ofLink
    (link : String × String) :
    (ofLink link).items = [] := rfl

/- The fields for links have an item if there is a link. -/
theorem mem_items_links_iff
    (item : Item)
    (links : Links) :
    item ∈ (Expr.checked (.apply .repository "merge"
        (.array (links.map ofLink)))).items ↔
      item = .repository := by
  simp [Expr.apply, Expr.items, Expr.partItems_eq_flatMap,
    Callee.items, List.flatMap_map, items_ofLink]

/- The field for extra fields has an item if there is one. -/
theorem mem_items_extras_iff
    (item : Item)
    (extra : List (String × ExtraValue)) :
    item ∈ (Expr.vector (extra.map ofExtra)).items ↔
      extra ≠ [] ∧ item = .extraValue := by
  rw [Expr.items, Expr.partItems_eq_flatMap, List.flatMap_map,
    List.mem_flatMap]
  simp only [items_ofExtra, List.mem_singleton]
  constructor
  · rintro ⟨field, hField, hItem⟩
    exact ⟨List.ne_nil_of_mem hField, hItem⟩
  · rintro ⟨hSome, hItem⟩
    rcases List.exists_mem_of_ne_nil extra hSome with
      ⟨field, hField⟩
    exact ⟨field, hField, hItem⟩

/- The fields of a grammar have the items of three of them. -/
theorem mem_fieldItems_grammarFields_iff
    (item : Item)
    (grammar : Grammar)
    (links : Links) :
    item ∈ Expr.fieldItems (grammarFields grammar links) ↔
      (∃ rule ∈ grammar.patterns, rule.Needs item) ∨
        (links ≠ [] ∧ item = .repository) ∨
          (grammar.extra ≠ [] ∧ item = .extraValue) := by
  have hRules :
      item ∈ (Expr.vector (ofRules grammar.patterns)).items ↔
        ∃ rule ∈ grammar.patterns, rule.Needs item := by
    rw [Expr.items, Expr.partItems_eq_flatMap, ofRules_eq_map,
      List.flatMap_map, List.mem_flatMap]
    simp only [mem_items_ofRule_iff]
  have hLinks := mem_items_links_iff item links
  have hExtra := mem_items_extras_iff item grammar.extra
  rw [Expr.fieldItems_eq_flatMap, grammarFields]
  simp only [List.flatMap_append, List.mem_append]
  refine Iff.trans ?_ (or_assoc)
  refine or_congr (or_congr ?patterns ?entries) ?extra
  case patterns =>
    rw [← hRules]
    cases grammar.injectionSelector <;>
      simp [Expr.owned, Expr.present, Expr.items, Expr.partItems,
        Callee.items]
  case entries =>
    cases links with
    | nil => simp
    | cons link links => simpa using hLinks
  case extra =>
    cases hSome : grammar.extra with
    | nil => simp
    | cons field extra => simpa [hSome] using hExtra

/- The source of a grammar has just the items that it needs. -/
theorem mem_items_ofGrammar_iff
    (item : Item)
    (grammar : Grammar)
    (links : Links) :
    item ∈
        [Item.grammar, .error] ++
          (ofGrammar grammar links).items ↔
      GrammarNeeds grammar links item := by
  have hItems :
      (ofGrammar grammar links).items =
        Item.grammar ::
          Expr.fieldItems (grammarFields grammar links) := by
    simp [ofGrammar, Expr.items, Expr.partItems, Callee.items]
  simp only [hItems, List.cons_append, List.nil_append,
    List.mem_cons, mem_fieldItems_grammarFields_iff]
  constructor
  · rintro (rfl | rfl | rfl | ⟨rule, hRule, hNeeds⟩ |
      ⟨hLinks, rfl⟩ | ⟨hExtra, rfl⟩)
    · exact .grammar
    · exact .error
    · exact .grammar
    · exact .rule hRule hNeeds
    · exact .repository hLinks
    · exact .extraValue hExtra
  · intro hNeeds
    cases hNeeds with
    | grammar => exact Or.inl rfl
    | error => exact Or.inr (Or.inl rfl)
    | rule hRule hNeeds =>
        exact
          Or.inr (Or.inr (Or.inr (Or.inl ⟨_, hRule, hNeeds⟩)))
    | repository hLinks => simp [hLinks]
    | extraValue hExtra => simp [hExtra]

instance
    (grammar : Grammar)
    (links : Links)
    (item : Item) :
    Decidable (GrammarNeeds grammar links item) :=
  decidable_of_iff _ (mem_items_ofGrammar_iff item grammar links)

end Source

end TextMate
