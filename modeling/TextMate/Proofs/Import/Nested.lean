import Mathlib.Data.List.Induction
import TextMate.Proofs.Import.CanonicalKeys
import TextMate.Proofs.Import.Groups

/-
  This file relates the rules in a value that an import keeps to
  the entries and the items of the document that they are made
  of, each with the step that leads to it.

  The two steps may differ.  An item is numbered anew among the
  objects of its list, and a captures key is written as the
  decimal text of its index.

  Main declarations:
    * `FieldValue.nested`
    * `FieldValue.visit_eq_flatMap`
    * `Captures.mem_ofList_iff`
    * `Import.KeepsRule`
    * `Import.mem_nested_walkValue_iff`
-/

namespace TextMate

open Import

------------------------------------------------------------
-- Rules in Values
------------------------------------------------------------

/- The rules in a value, each with the step that leads to it. -/
def FieldValue.nested : FieldValue → List (Step × Rule)
  | .pattern _ | .label _ => []
  | .captures entries =>
      entries.map fun entry =>
        (.member (toString entry.1.toNat), entry.2)
  | .children rules =>
      rules.zipIdx.map fun item => (.item item.2, item.1)

/- A visit of a value takes the steps to its rules. -/
theorem FieldValue.visit_eq_flatMap
    (path : String)
    (value : FieldValue) :
    value.visit path =
      value.nested.flatMap fun entry =>
        entry.2.visit (entry.1.path path) := by
  cases value with
  | pattern _ | label _ => rfl
  | captures entries =>
      rw [visit, Rule.visitCaptures_eq_flatMap, nested,
        List.flatMap_map]
      rfl
  | children rules =>
      rw [visit, Rule.visitRules_eq_flatMap, nested,
        List.flatMap_map]
      rfl

/- The steps of a value lead to its rules. -/
theorem FieldValue.mem_rules_of_mem_nested
    {value : FieldValue}
    {entry : Step × Rule}
    (hEntry : entry ∈ value.nested) :
    entry.2 ∈ value.rules := by
  cases value with
  | pattern _ | label _ => cases hEntry
  | captures entries =>
      rcases List.mem_map.mp hEntry with ⟨_, hRule, rfl⟩
      exact List.mem_map_of_mem hRule
  | children rules =>
      rcases List.mem_map.mp hEntry with ⟨_, hRule, rfl⟩
      exact List.fst_mem_of_mem_zipIdx hRule

------------------------------------------------------------
-- Parts of Lists That Are Kept
------------------------------------------------------------

section Parts

variable {α β : Type}
variable {keep : α → Option β}

/- An item that is kept has others before and after it. -/
theorem filterMap_eq_append_cons_iff
    {items : List α}
    {before after : List β}
    {kept : β} :
    items.filterMap keep = before ++ kept :: after ↔
      ∃ first item last,
        items = first ++ item :: last ∧
          first.filterMap keep = before ∧
          keep item = some kept ∧
          last.filterMap keep = after := by
  constructor
  · intro hItems
    rcases List.filterMap_eq_append_iff.mp hItems with
      ⟨start, rest, rfl, hStart, hRest⟩
    rcases List.filterMap_eq_cons_iff.mp hRest with
      ⟨lost, item, last, rfl, hLost, hItem, hLast⟩
    refine
      ⟨start ++ lost, item, last, by simp, ?_, hItem, hLast⟩
    rw [List.filterMap_append, hStart,
      List.filterMap_eq_nil_iff.mpr hLost, List.append_nil]
  · rintro ⟨first, item, last, rfl, rfl, hItem, rfl⟩
    rw [List.filterMap_append, List.filterMap_cons_some hItem]

/- Items that are kept are numbered by those kept before. -/
theorem mem_zipIdx_filterMap_iff
    {items : List α}
    {kept : β}
    {position : Nat} :
    (kept, position) ∈ (items.filterMap keep).zipIdx ↔
      ∃ first item last,
        items = first ++ item :: last ∧
          keep item = some kept ∧
          first.countP (fun item => (keep item).isSome) =
            position := by
  rw [List.mk_mem_zipIdx_iff_getElem?]
  constructor
  · intro hKept
    rcases List.getElem?_eq_some_iff.mp hKept with
      ⟨hPosition, rfl⟩
    have hSplit := (List.take_append_drop position
        (items.filterMap keep)).symm
    rw [List.drop_eq_getElem_cons hPosition] at hSplit
    rcases filterMap_eq_append_cons_iff.mp hSplit with
      ⟨first, item, last, hItems, hFirst, hItem, -⟩
    refine ⟨first, item, last, hItems, hItem, ?_⟩
    rw [← List.length_filterMap_eq_countP, hFirst,
      List.length_take,
      Nat.min_eq_left (Nat.le_of_lt hPosition)]
  · rintro ⟨first, item, last, rfl, hItem, rfl⟩
    rw [List.filterMap_append, List.filterMap_cons_some hItem,
      ← List.length_filterMap_eq_countP,
      List.getElem?_append_right (Nat.le_refl _), Nat.sub_self,
      List.getElem?_cons_zero]

end Parts

------------------------------------------------------------
-- Captures of Lists
------------------------------------------------------------

namespace Captures

/- An insertion sets the rule of one index and no other. -/
theorem mem_insert_iff
    {captures : Captures}
    (hAscending : captures.Ascending)
    {index other : UInt32}
    {rule new : Rule} :
    (other, rule) ∈ captures.insert index new ↔
      (other, rule) = (index, new) ∨
        other ≠ index ∧ (other, rule) ∈ captures := by
  induction captures with
  | nil => simp [insert]
  | cons first rest ih =>
      rcases first with ⟨present, old⟩
      have hRest := List.pairwise_cons.mp hAscending
      have hAbove :
          (other, rule) ∈ rest → present < other :=
        hRest.1 (other, rule)
      by_cases hLess : index < present
      · have hOther :
            (other, rule) ∈ (present, old) :: rest →
              other ≠ index := by
          intro hMember
          apply Ne.symm
          apply UInt32.ne_of_lt
          rcases List.mem_cons.mp hMember with hFirst | hLater
          · cases hFirst
            exact hLess
          · exact UInt32.lt_trans hLess (hAbove hLater)
        rw [insert, if_pos hLess, List.mem_cons,
          and_iff_right_of_imp hOther]
      · by_cases hSame : index = present
        · subst hSame
          have hOther :
              (other, rule) ∈ rest → other ≠ index :=
            fun hLater => Ne.symm (UInt32.ne_of_lt (hAbove hLater))
          rw [insert, if_neg hLess, if_pos rfl, List.mem_cons,
            List.mem_cons, and_or_left, Prod.mk.injEq,
            Prod.mk.injEq, and_iff_right_of_imp hOther]
          refine or_congr_right (Iff.symm (or_iff_right ?_))
          rintro ⟨hNot, hIndex, -⟩
          exact hNot hIndex
        · have hFirst :
              (other, rule) = (present, old) → other ≠ index := by
            intro hFirst
            cases hFirst
            exact Ne.symm hSame
          rw [insert, if_neg hLess, if_neg hSame, List.mem_cons,
            ih hRest.2, List.mem_cons, and_or_left,
            and_iff_right_of_imp hFirst, or_left_comm]

/- The last rule that a list has for an index counts. -/
theorem mem_ofList_iff
    (entries : List (UInt32 × Rule))
    {index : UInt32}
    {rule : Rule} :
    (index, rule) ∈ ofList entries ↔
      ∃ before after,
        entries = before ++ (index, rule) :: after ∧
          index ∉ after.map Prod.fst := by
  induction entries using List.reverseRecOn with
  | nil => simp [ofList]
  | append_singleton entries last ih =>
      rcases last with ⟨newest, new⟩
      have hLast :
          ofList (entries ++ [(newest, new)]) =
            (ofList entries).insert newest new :=
        List.foldl_append
      rw [hLast, mem_insert_iff (ascending_ofList entries), ih]
      constructor
      · rintro (hNew | ⟨hOther, before, after, rfl, hAfter⟩)
        · exact ⟨entries, [], by rw [hNew], List.not_mem_nil⟩
        · refine
            ⟨before, after ++ [(newest, new)], by simp, ?_⟩
          rw [List.map_append, List.mem_append, not_or]
          exact ⟨hAfter, by simpa using hOther⟩
      · rintro ⟨before, after, hEntries, hAfter⟩
        rcases List.eq_nil_or_concat after with
          rfl | ⟨after, final, rfl⟩
        · have hBoth := List.append_inj' hEntries rfl
          exact Or.inl (List.singleton_inj.mp hBoth.2).symm
        · rw [List.concat_eq_append] at hEntries hAfter
          rw [← List.cons_append, ← List.append_assoc]
            at hEntries
          rcases List.append_inj' hEntries rfl with
            ⟨rfl, hFinal⟩
          cases List.singleton_inj.mp hFinal
          rw [List.map_append, List.mem_append, not_or]
            at hAfter
          refine Or.inr ⟨?_, before, after, rfl, hAfter.1⟩
          simpa using hAfter.2

end Captures

------------------------------------------------------------
-- Rules That Are Kept
------------------------------------------------------------

namespace Import

/-
  A value holds a rule at a step, and what is kept of the value
  has it at the second step: under the text of the index that
  its captures key names, where no later entry names it again,
  or behind just the rules of the list before it.
-/
inductive KeepsRule
    (field : Field) :
    Json.Value → Step → Step → Json.Object → Prop where
  | group
      {before after members : Json.Object}
      {key : String}
      {index : UInt32}
      (hKind : field.kind = .captures)
      (hIndex : groupIndex? key = some index)
      (hLast : index ∉ namedGroups after) :
      KeepsRule field
        (.object (before ++ (key, .object members) :: after))
        (.member key) (.member (toString index.toNat)) members
  | item
      {before after : List Json.Value}
      {members : Json.Object}
      (hKind : field.kind = .children) :
      KeepsRule field
        (.array (before ++ .object members :: after))
        (.item before.length) (.item (before.countP isRule))
        members

/- A rule that is kept is one that is held. -/
theorem KeepsRule.holdsRule
    {field : Field}
    {value : Json.Value}
    {step shown : Step}
    {members : Json.Object}
    (hKeeps : KeepsRule field value step shown members) :
    HoldsRule field value step members := by
  cases hKeeps with
  | group hKind _ _ =>
      exact
        .group hKind
          (List.mem_append_right _ List.mem_cons_self)
  | item hKind =>
      refine .item hKind ?_
      rw [List.mk_mem_zipIdx_iff_getElem?,
        List.getElem?_append_right (Nat.le_refl _), Nat.sub_self,
        List.getElem?_cons_zero]

variable (check : Acceptance)

/- The entry that is kept of a member of captures. -/
def groupRule?
    (member : String × Json.Value) : Option (UInt32 × Rule) :=
  match groupIndex? member.1 with
  | some index =>
      (walkNested check member.2).kept.map fun rule =>
        (index, rule)
  | none => none

theorem kept_walkCaptures_eq_filterMap
    (members : Json.Object) :
    (walkCaptures check members).kept =
      members.filterMap (groupRule? check) := by
  rw [kept_walkCaptures, List.filterMap_eq_flatMap_toList]
  refine List.flatMap_congr fun member _ => ?_
  unfold groupEntry groupRule?
  cases groupIndex? member.1 with
  | none => rfl
  | some index => cases (walkNested check member.2).kept <;> rfl

/- The entry of a rule has the index that its key names. -/
theorem groupRule?_eq_some_iff
    {member : String × Json.Value}
    {entry : UInt32 × Rule} :
    groupRule? check member = some entry ↔
      groupIndex? member.1 = some entry.1 ∧
        ∃ members, member.2 = .object members ∧
          (walkRule check members).kept = entry.2 := by
  rcases entry with ⟨index, rule⟩
  rw [groupRule?, ← kept_walkNested_eq_some_iff]
  cases groupIndex? member.1 with
  | none => simp
  | some other => simp [and_comm]

/- The groups that are kept are the last ones of their index. -/
theorem mem_ofList_walkCaptures_iff
    {entries : Json.Object}
    {index : UInt32}
    {rule : Rule} :
    (index, rule) ∈
        Captures.ofList (walkCaptures check entries).kept ↔
      ∃ before key members after,
        entries = before ++ (key, .object members) :: after ∧
          groupIndex? key = some index ∧
          index ∉ namedGroups after ∧
          (walkRule check members).kept = rule := by
  rw [Captures.mem_ofList_iff, kept_walkCaptures_eq_filterMap]
  constructor
  · rintro ⟨earlier, later, hEntries, hLast⟩
    rcases filterMap_eq_append_cons_iff.mp hEntries with
      ⟨before, ⟨key, value⟩, after, rfl, -, hMember, rfl⟩
    rcases (groupRule?_eq_some_iff check).mp hMember with
      ⟨hIndex, members, rfl, hRule⟩
    rw [← kept_walkCaptures_eq_filterMap, indexes_walkCaptures]
      at hLast
    exact ⟨before, key, members, after, rfl, hIndex, hLast, hRule⟩
  · rintro ⟨before, key, members, after, rfl, hIndex, hLast, hRule⟩
    have hMember :
        groupRule? check (key, .object members) =
          some (index, rule) :=
      (groupRule?_eq_some_iff check).mpr
        ⟨hIndex, members, rfl, hRule⟩
    refine
      ⟨_, _,
        filterMap_eq_append_cons_iff.mpr
          ⟨before, _, after, rfl, rfl, hMember, rfl⟩, ?_⟩
    rwa [← kept_walkCaptures_eq_filterMap, indexes_walkCaptures]

/- The rules of a list are numbered as they are kept. -/
theorem mem_zipIdx_walkItems_iff
    {items : List Json.Value}
    {rule : Rule}
    {position : Nat} :
    (rule, position) ∈ (walkItems check 0 items).kept.zipIdx ↔
      ∃ before members after,
        items = before ++ Json.Value.object members :: after ∧
          before.countP isRule = position ∧
          (walkRule check members).kept = rule := by
  rw [kept_walkItems, mem_zipIdx_filterMap_iff]
  simp only [isSome_kept_walkNested, kept_walkNested_eq_some_iff]
  constructor
  · rintro ⟨before, _, after, rfl, ⟨members, rfl, hRule⟩, hCount⟩
    exact ⟨before, members, after, rfl, hCount, hRule⟩
  · rintro ⟨before, members, after, rfl, hCount, hRule⟩
    exact
      ⟨before, _, after, rfl, ⟨members, rfl, hRule⟩, hCount⟩

/-
  The rules in a value that is kept are those of the objects
  that are kept of it.
-/
theorem mem_nested_walkValue_iff
    {field : Field}
    {value : Json.Value}
    {kept : FieldValue}
    (hKept : (walkValue check field value).kept = some kept)
    {shown : Step}
    {rule : Rule} :
    (shown, rule) ∈ kept.nested ↔
      ∃ step members, KeepsRule field value step shown members ∧
        (walkRule check members).kept = rule := by
  constructor
  · intro hNested
    cases kept with
    | pattern _ | label _ => cases hNested
    | captures captures =>
        rcases exists_object_of_walkValue check hKept with
          ⟨hField, entries, rfl, rfl⟩
        rcases List.mem_map.mp hNested with
          ⟨⟨index, rule⟩, hEntry, hEqual⟩
        cases hEqual
        rcases (mem_ofList_walkCaptures_iff check).mp hEntry with
          ⟨_, _, members, _, rfl, hIndex, hLast, hRule⟩
        exact ⟨_, members, .group hField hIndex hLast, hRule⟩
    | children rules =>
        rcases exists_array_of_walkValue check hKept with
          ⟨hField, items, rfl, rfl⟩
        rcases List.mem_map.mp hNested with
          ⟨⟨rule, position⟩, hItem, hEqual⟩
        cases hEqual
        rcases (mem_zipIdx_walkItems_iff check).mp hItem with
          ⟨_, members, _, rfl, rfl, hRule⟩
        exact ⟨_, members, .item hField, hRule⟩
  · rintro ⟨step, members, hKeeps, rfl⟩
    cases hKeeps with
    | @group before after _ key index hKind hIndex hLast =>
        simp only [walkValue, hKind, Walk.map,
          Option.some.injEq] at hKept
        subst hKept
        have hEntry :=
          (mem_ofList_walkCaptures_iff check).mpr
            ⟨before, key, members, after, rfl, hIndex, hLast, rfl⟩
        exact List.mem_map.mpr ⟨_, hEntry, rfl⟩
    | @item before after _ hKind =>
        simp only [walkValue, hKind, Walk.map,
          Option.some.injEq] at hKept
        subst hKept
        have hItem :=
          (mem_zipIdx_walkItems_iff check).mpr
            ⟨before, members, after, rfl, rfl, rfl⟩
        exact List.mem_map.mpr ⟨_, hItem, rfl⟩

end Import

end TextMate
