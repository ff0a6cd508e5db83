import TextMate.Proofs.Import.Account
import TextMate.Proofs.Import.DocumentAccount
import TextMate.Proofs.Rule.Visit

/-
  This file defines which objects of a document an import reads
  as rules, each with its place, and relates what an import
  does with a rule to what it does with those nested in it.

  A rule that an import keeps, at any depth, is what it keeps of
  an object that is reached.  What is found inside an object
  that is reached, and the captures keys that are met in it, are
  also found and met from the outside.

  Main declarations:
    * `Import.HoldsRule`
    * `Import.objectInduction`
    * `Import.Reaches`
    * `Import.exists_reaches_of_mem_visit`
    * `Import.mem_keys_of_reaches`
    * `Import.foundAt_of_reaches`
    * `Document.Reaches`
    * `Document.exists_reaches_of_mem_visit`
    * `Document.start_importRule_of_reaches`
-/

namespace TextMate

namespace Import

------------------------------------------------------------
-- Nested Rules
------------------------------------------------------------

/-
  The value of a field holds a rule: an entry of captures or an
  item of a list, where it is an object.
-/
inductive HoldsRule
    (field : Field) :
    Json.Value → Step → Json.Object → Prop where
  | group
      {entries members : Json.Object}
      {key : String}
      (hKind : field.kind = .captures)
      (hEntry : (key, .object members) ∈ entries) :
      HoldsRule field (.object entries) (.member key) members
  | item
      {items : List Json.Value}
      {members : Json.Object}
      {position : Nat}
      (hKind : field.kind = .children)
      (hItem : (.object members, position) ∈ items.zipIdx) :
      HoldsRule field (.array items) (.item position) members

/- A rule is smaller than the value that holds it. -/
theorem HoldsRule.sizeOf_lt
    {field : Field}
    {value : Json.Value}
    {step : Step}
    {members : Json.Object}
    (hHolds : HoldsRule field value step members) :
    sizeOf members < sizeOf value := by
  cases hHolds with
  | group _ hEntry =>
      have hSize := List.sizeOf_lt_of_mem hEntry
      simp only [Prod.mk.sizeOf_spec,
        Json.Value.object.sizeOf_spec] at hSize ⊢
      omega
  | item _ hItem =>
      have hSize :=
        List.sizeOf_lt_of_mem (List.fst_mem_of_mem_zipIdx hItem)
      simp only [Json.Value.object.sizeOf_spec,
        Json.Value.array.sizeOf_spec] at hSize ⊢
      omega

/-
  What holds of a rule in a document whenever it holds of the
  rules that its fields hold is true of every rule.
-/
theorem objectInduction
    {motive : Json.Object → Prop}
    (step :
      ∀ members,
        (∀ (field : Field) (value : Json.Value) (step : Step)
            (inner : Json.Object),
          (field.key, value) ∈ members →
            HoldsRule field value step inner → motive inner) →
        motive members)
    (members : Json.Object) :
    motive members := by
  apply step
  intro field value place inner hMember hHolds
  have hInner := hHolds.sizeOf_lt
  have hValue : sizeOf value < sizeOf members := by
    have hSize := List.sizeOf_lt_of_mem hMember
    simp only [Prod.mk.sizeOf_spec] at hSize
    omega
  exact objectInduction step inner
termination_by sizeOf members

/-
  The import of a rule reads another one, at a place inside of
  it or the rule itself.
-/
inductive Reaches :
    Json.Object → Place → Json.Object → Prop where
  | self
      {members : Json.Object} :
      Reaches members [] members
  | nested
      {members inner rule : Json.Object}
      {field : Field}
      {value : Json.Value}
      {step : Step}
      {place : Place}
      (hMember : (field.key, value) ∈ members)
      (hHolds : HoldsRule field value step inner)
      (hInner : Reaches inner place rule) :
      Reaches members (.member field.key :: step :: place) rule

variable (check : Acceptance)

------------------------------------------------------------
-- Rules That Are Kept
------------------------------------------------------------

/- A field that is kept is that of a member with its key. -/
theorem exists_member_of_get?_kept
    {members : Json.Object}
    {field : Field}
    {kept : FieldValue}
    (hKept :
      (walkRule check members).kept.get? field = some kept) :
    ∃ value, (field.key, value) ∈ members ∧
      (walkValue check field value).kept = some kept := by
  rw [get?_kept_walkRule_eq, Option.ite_none_left_eq_some]
    at hKept
  rcases mem_of_get?_assemble
    (fun _ _ => kind_of_mem_walkMembers check) hKept.2 with
    hMember | hNone
  · exact (mem_kept_walkMembers_iff check).mp hMember
  · rw [Rule.get?_empty] at hNone
    cases hNone

/- A nested rule that is kept is that of an object. -/
theorem kept_walkNested_eq_some_iff
    (value : Json.Value)
    (rule : Rule) :
    (walkNested check value).kept = some rule ↔
      ∃ members, value = .object members ∧
        (walkRule check members).kept = rule := by
  cases value with
  | object members =>
      rw [walkNested_object]
      simp [Walk.map]
  | null | bool _ | number _ | string _ | array _ =>
      simp [walkNested, Walk.fault]

/- The rules in a value that is kept are of rules it holds. -/
theorem exists_holdsRule_of_mem_rules
    {field : Field}
    {value : Json.Value}
    {kept : FieldValue}
    (hKept : (walkValue check field value).kept = some kept)
    {rule : Rule}
    (hRule : rule ∈ kept.rules) :
    ∃ step members, HoldsRule field value step members ∧
      (walkRule check members).kept = rule := by
  cases kept with
  | pattern _ | label _ => exact absurd hRule List.not_mem_nil
  | captures captures =>
      rcases exists_object_of_walkValue check hKept with
        ⟨hField, entries, rfl, rfl⟩
      rcases List.mem_map.mp hRule with ⟨entry, hEntry, rfl⟩
      have hListed := Captures.mem_of_mem_ofList hEntry
      rw [kept_walkCaptures, List.mem_flatMap] at hListed
      rcases hListed with ⟨⟨key, value⟩, hMember, hGroup⟩
      simp only [groupEntry] at hGroup
      split at hGroup
      · rcases List.mem_map.mp hGroup with
          ⟨rule, hNested, rfl⟩
        rcases (kept_walkNested_eq_some_iff check _ _).mp
          (Option.mem_toList.mp hNested) with
          ⟨members, rfl, hRule⟩
        exact ⟨_, members, .group hField hMember, hRule⟩
      · exact absurd hGroup List.not_mem_nil
  | children rules =>
      rcases exists_array_of_walkValue check hKept with
        ⟨hField, items, rfl, rfl⟩
      rw [FieldValue.rules, kept_walkItems,
        List.mem_filterMap] at hRule
      rcases hRule with ⟨item, hItem, hNested⟩
      rcases (kept_walkNested_eq_some_iff check _ _).mp
        hNested with ⟨members, rfl, hRule⟩
      rcases Rule.exists_mem_zipIdx hItem with
        ⟨position, hPosition⟩
      exact ⟨_, members, .item hField hPosition, hRule⟩

/-
  A rule that is visited in what is kept of an object is what
  is kept of an object that is reached from it.
-/
theorem exists_reaches_of_mem_visit
    {members : Json.Object}
    {path : String}
    {visited : String × Rule}
    (hVisited :
      visited ∈ (walkRule check members).kept.visit path) :
    ∃ place inner, Reaches members place inner ∧
      (walkRule check inner).kept = visited.2 := by
  generalize hRule : (walkRule check members).kept = rule
    at hVisited
  induction rule using Rule.induction
    generalizing members path with
  | step rule ih =>
      rw [Rule.visit_eq_cons, List.mem_cons, List.mem_flatMap]
        at hVisited
      rcases hVisited with rfl | ⟨⟨field, kept⟩, hField, hVisit⟩
      · exact ⟨[], members, .self, hRule⟩
      · have hKept := (rule.mem_fields_iff _ _).mp hField
        have hInside :
            ∃ inner ∈ kept.rules, ∃ path,
              visited ∈ inner.visit path := by
          cases kept with
          | pattern _ | label _ => cases hVisit
          | captures captures =>
              rw [FieldValue.visit,
                Rule.visitCaptures_eq_flatMap,
                List.mem_flatMap] at hVisit
              rcases hVisit with ⟨entry, hEntry, hVisit⟩
              exact
                ⟨entry.2, List.mem_map_of_mem hEntry, _, hVisit⟩
          | children rules =>
              rw [FieldValue.visit, Rule.visitRules_eq_flatMap,
                List.mem_flatMap] at hVisit
              rcases hVisit with ⟨item, hItem, hVisit⟩
              exact
                ⟨item.1, List.fst_mem_of_mem_zipIdx hItem, _,
                  hVisit⟩
        rcases hInside with ⟨nested, hNested, _, hVisit⟩
        rw [← hRule] at hKept
        rcases exists_member_of_get?_kept check hKept with
          ⟨value, hMember, hValue⟩
        rcases exists_holdsRule_of_mem_rules check hValue hNested
          with ⟨step, object, hHolds, hObject⟩
        rw [hRule] at hKept
        rcases ih field kept hKept nested hNested hObject hVisit
          with ⟨place, inner, hInner, hEqual⟩
        exact ⟨_, inner, .nested hMember hHolds hInner, hEqual⟩

------------------------------------------------------------
-- Captures Keys That Are Met
------------------------------------------------------------

/- The captures keys of a field are met in its rule. -/
theorem mem_keys_walkRule
    {members : Json.Object}
    {field : Field}
    {value : Json.Value}
    (hMember : (field.key, value) ∈ members)
    {groupKey : GroupKey}
    (hKey : groupKey ∈ (walkValue check field value).keys) :
    groupKey.below (.member field.key) ∈
      (walkRule check members).keys := by
  rw [walkRule, Walk.join, List.mem_append]
  refine Or.inl ?_
  rw [keys_walkMembers, List.mem_flatMap]
  refine ⟨_, hMember, ?_⟩
  rw [memberKeys, Field.ofKey?_key]
  exact List.mem_map_of_mem hKey

/- The captures keys of a rule are met in what holds it. -/
theorem mem_keys_walkValue
    {field : Field}
    {value : Json.Value}
    {step : Step}
    {members : Json.Object}
    (hHolds : HoldsRule field value step members)
    {groupKey : GroupKey}
    (hKey : groupKey ∈ (walkRule check members).keys) :
    groupKey.below step ∈ (walkValue check field value).keys := by
  cases hHolds with
  | group hKind hEntry =>
      simp only [walkValue, hKind, Walk.map]
      rw [keys_walkCaptures, List.mem_flatMap]
      refine ⟨_, hEntry, List.mem_cons_of_mem _ ?_⟩
      exact List.mem_map_of_mem hKey
  | item hKind hItem =>
      simp only [walkValue, hKind, Walk.map]
      rw [keys_walkItems, List.mem_flatMap]
      exact ⟨_, hItem, List.mem_map_of_mem hKey⟩

/- The captures keys of a rule that is reached are met. -/
theorem mem_keys_of_reaches
    {members rule : Json.Object}
    {place : Place}
    (hReaches : Reaches members place rule)
    {groupKey : GroupKey}
    (hKey : groupKey ∈ (walkRule check rule).keys) :
    ⟨place ++ groupKey.place, groupKey.key⟩ ∈
      (walkRule check members).keys := by
  induction hReaches with
  | self => exact hKey
  | nested hMember hHolds _ ih =>
      exact
        mem_keys_walkRule check hMember
          (mem_keys_walkValue check hHolds (ih hKey))

/- A walk has no error if all its captures keys are indexes. -/
theorem Walk.errors_eq_nil_iff
    {α : Type}
    (walk : Walk α)
    (path : String) :
    walk.errors path = [] ↔
      ∀ groupKey ∈ walk.keys,
        (groupIndex? groupKey.key).isSome := by
  rw [errors, List.filterMap_eq_nil_iff]
  refine forall₂_congr fun groupKey _ => ?_
  simp [GroupKey.error?, Option.isSome_iff_ne_none]

/- A rule that is reached is not what stops an import. -/
theorem errors_of_reaches
    {members rule : Json.Object}
    {place : Place}
    (hReaches : Reaches members place rule)
    {path : String}
    (hErrors : (walkRule check members).errors path = [])
    (other : String) :
    (walkRule check rule).errors other = [] := by
  rw [Walk.errors_eq_nil_iff] at hErrors ⊢
  intro groupKey hKey
  have hMet := mem_keys_of_reaches check hReaches hKey
  have hIndex := hErrors _ hMet
  exact hIndex

------------------------------------------------------------
-- Places of Findings
------------------------------------------------------------

/- A rule in a tidy value is tidy. -/
theorem HoldsRule.tidy
    {field : Field}
    {value : Json.Value}
    {step : Step}
    {members : Json.Object}
    (hHolds : HoldsRule field value step members)
    (hTidy : value.Tidy) :
    (Json.Value.object members).Tidy := by
  cases hHolds with
  | group _ hEntry => exact hTidy.members _ hEntry
  | item _ hItem =>
      exact hTidy.items _ (List.fst_mem_of_mem_zipIdx hItem)

/- What is found behind the step to a rule is found in it. -/
theorem foundAt_walkValue_of_holdsRule
    {field : Field}
    {value : Json.Value}
    {step : Step}
    {members : Json.Object}
    (hHolds : HoldsRule field value step members)
    (hTidy : value.Tidy)
    (place : Place) :
    foundAt (walkValue check field value).findings
        (step :: place) =
      foundAt (walkRule check members).findings place := by
  cases hHolds with
  | group hKind hEntry =>
      simp only [walkValue, hKind, Walk.map]
      exact foundAt_walkCaptures check hTidy.keys hEntry place
  | item hKind hItem =>
      simp only [walkValue, hKind, Walk.map]
      exact foundAt_walkItems check hItem place

/- A rule that is reached in a tidy one is tidy. -/
theorem Reaches.tidy
    {members rule : Json.Object}
    {place : Place}
    (hReaches : Reaches members place rule)
    (hTidy : (Json.Value.object members).Tidy) :
    (Json.Value.object rule).Tidy := by
  induction hReaches with
  | self => exact hTidy
  | nested hMember hHolds _ ih =>
      exact ih (hHolds.tidy (hTidy.members _ hMember))

/- What is found at a place behind a rule is found in it. -/
theorem foundAt_of_reaches
    {members rule : Json.Object}
    {place : Place}
    (hReaches : Reaches members place rule)
    (hTidy : (Json.Value.object members).Tidy)
    (rest : Place) :
    foundAt (walkRule check members).findings (place ++ rest) =
      foundAt (walkRule check rule).findings rest := by
  induction hReaches with
  | self => rfl
  | nested hMember hHolds _ ih =>
      have hValue := hTidy.members _ hMember
      rw [List.cons_append, List.cons_append,
        foundAt_walkRule check hTidy.keys hMember,
        foundAt_walkValue_of_holdsRule check hHolds hValue,
        ih (hHolds.tidy hValue)]
      exact Bool.or_false _

end Import

------------------------------------------------------------
-- Documents
------------------------------------------------------------

namespace Document

open Import

/- The import of a document reads a rule, at a place of a part. -/
inductive Reaches
    (document : Document) : Root → Place → Json.Object → Prop where
  | entry
      {name : String}
      {members rule : Json.Object}
      {place : Place}
      (hEntry : (name, members) ∈ document.repository)
      (hInner : Import.Reaches members place rule) :
      document.Reaches (.entry name) place rule
  | pattern
      {position : Nat}
      {members rule : Json.Object}
      {place : Place}
      (hItem : (members, position) ∈ document.patterns.zipIdx)
      (hInner : Import.Reaches members place rule) :
      document.Reaches (.pattern position) place rule

variable (check : Acceptance)
variable {document : Document}

/-
  A rule that is visited in what is kept of a document is what
  is kept of an object that is reached.
-/
theorem exists_reaches_of_mem_visit
    {visited : String × Rule}
    (hVisited : visited ∈ (document.kept check).visit) :
    ∃ root place members, document.Reaches root place members ∧
      (walkRule check members).kept = visited.2 := by
  rw [Grammar.visit, List.mem_append, List.mem_flatMap,
    Rule.visitRules_eq_flatMap, List.mem_flatMap] at hVisited
  rcases hVisited with ⟨_, hKept, hVisit⟩ | ⟨item, hItem, hVisit⟩
  · rcases List.mem_map.mp hKept with ⟨entry, hEntry, rfl⟩
    rcases Import.exists_reaches_of_mem_visit check hVisit with
      ⟨place, members, hReaches, hRule⟩
    exact ⟨_, place, members, .entry hEntry hReaches, hRule⟩
  · rcases List.mem_map.mp (List.fst_mem_of_mem_zipIdx hItem)
      with ⟨members, hMembers, hKept⟩
    rw [← hKept] at hVisit
    rcases Import.exists_reaches_of_mem_visit check hVisit with
      ⟨place, inner, hReaches, hRule⟩
    rcases Rule.exists_mem_zipIdx hMembers with
      ⟨position, hPosition⟩
    exact ⟨_, place, inner, .pattern hPosition hReaches, hRule⟩

/- An entry of a repository is not what stops an import. -/
theorem errors_of_mem_entries
    {taken : List String}
    {entries : List (String × Json.Object)}
    (hErrors : entryErrors check taken entries = [])
    {entry : String × Json.Object}
    (hEntry : entry ∈ entries) :
    (walkRule check entry.2).errors (Grammar.entryPath entry.1) =
      [] := by
  induction entries generalizing taken with
  | nil => cases hEntry
  | cons first rest ih =>
      rw [entryErrors, List.append_eq_nil_iff,
        List.append_eq_nil_iff] at hErrors
      rcases List.mem_cons.mp hEntry with rfl | hRest
      · exact hErrors.2.1
      · exact ih hErrors.2.2 hRest

/- Nor is a rule that is reached. -/
theorem errors_of_reaches
    (hErrors : document.errors check = [])
    {root : Root}
    {place : Place}
    {members : Json.Object}
    (hReaches : document.Reaches root place members)
    (path : String) :
    (walkRule check members).errors path = [] := by
  rw [errors, List.append_eq_nil_iff, List.flatMap_eq_nil_iff]
    at hErrors
  cases hReaches with
  | entry hEntry hInner =>
      have hOuter := errors_of_mem_entries check hErrors.1 hEntry
      exact Import.errors_of_reaches check hInner hOuter path
  | pattern hItem hInner =>
      exact
        Import.errors_of_reaches check hInner
          (hErrors.2 _ hItem) path

/- The import of a rule that is reached gives what is kept. -/
theorem start_importRule_of_reaches
    (hErrors : document.errors check = [])
    {root : Root}
    {place : Place}
    {members : Json.Object}
    (hReaches : document.Reaches root place members)
    (path : String)
    (journal : Journal) :
    ((importRule check path members).start journal).1 =
      .ok (walkRule check members).kept :=
  ((importRule_follows check path members).of_errors_eq_nil
    (errors_of_reaches check hErrors hReaches path) journal).1

end Document

end TextMate
