import TextMate.Grammar
import TextMate.Proofs.Rule.Access

/-
  This file defines properties that hold for every field of a
  rule or a grammar, at any depth.

  A grammar is keyed when each of its keyed collections has
  every key once: captures by ascending index, and the
  repository by name.  Captures and repositories are only
  ever built by insertion, which keeps them so.

  Main declarations:
    * `Rule.Every`
    * `Grammar.Every`
    * `FieldValue.Keyed`
    * `Grammar.Keyed`
    * `Captures.ascending_ofList`
    * `Captures.ofList_eq_self`
    * `Captures.ofList_perm`
-/

namespace TextMate

------------------------------------------------------------
-- Properties of All Fields
------------------------------------------------------------

/- A property of the fields of a rule and those nested in it. -/
inductive Rule.Every
    (holds : Field → FieldValue → Prop) : Rule → Prop where
  | intro
      {rule : Rule}
      (own : ∀ field value,
        rule.get? field = some value → holds field value)
      (nested : ∀ field value,
        rule.get? field = some value →
          ∀ inner ∈ value.rules, inner.Every holds) :
      rule.Every holds

namespace Rule.Every

variable {holds others : Field → FieldValue → Prop}
variable {rule : Rule}

/- The property holds for the fields of the rule itself. -/
theorem own
    (hEvery : rule.Every holds)
    {field : Field}
    {value : FieldValue}
    (hValue : rule.get? field = some value) :
    holds field value := by
  cases hEvery with
  | intro own _ => exact own field value hValue

/- The property holds in the rules nested in the rule. -/
theorem nested
    (hEvery : rule.Every holds)
    {field : Field}
    {value : FieldValue}
    (hValue : rule.get? field = some value)
    {inner : Rule}
    (hInner : inner ∈ value.rules) :
    inner.Every holds := by
  cases hEvery with
  | intro _ nested =>
      exact nested field value hValue inner hInner

/- A weaker property holds as well. -/
theorem mono
    (hEvery : rule.Every holds)
    (hWeaker :
      ∀ field value, holds field value → others field value) :
    rule.Every others := by
  induction rule using Rule.induction with
  | step rule ih =>
      constructor
      · intro field value hValue
        exact hWeaker field value (hEvery.own hValue)
      · intro field value hValue inner hInner
        exact ih field value hValue inner hInner
          (hEvery.nested hValue hInner)

/- A rule without fields has any property. -/
theorem empty : Rule.empty.Every holds := by
  constructor
  · intro field value hValue
    simp at hValue
  · intro field value hValue
    simp at hValue

/- The property holds for the fields that a rule lists. -/
theorem iff_fields :
    rule.Every holds ↔
      ∀ entry ∈ rule.fields,
        holds entry.1 entry.2 ∧
          ∀ inner ∈ entry.2.rules, inner.Every holds := by
  constructor
  · rintro hEvery ⟨field, value⟩ hField
    have hValue := (rule.mem_fields_iff _ _).mp hField
    exact ⟨hEvery.own hValue, fun _ => hEvery.nested hValue⟩
  · intro hFields
    constructor
    · intro field value hValue
      exact (hFields _ ((rule.mem_fields_iff _ _).mpr hValue)).1
    · intro field value hValue
      exact (hFields _ ((rule.mem_fields_iff _ _).mpr hValue)).2

end Rule.Every

/- A property of the fields of all rules of a grammar. -/
def Grammar.Every
    (holds : Field → FieldValue → Prop)
    (grammar : Grammar) : Prop :=
  (∀ entry ∈ grammar.repository.entries,
      entry.2.Every holds) ∧
    ∀ rule ∈ grammar.patterns, rule.Every holds

/- A weaker property holds in the grammar as well. -/
theorem Grammar.Every.mono
    {holds others : Field → FieldValue → Prop}
    {grammar : Grammar}
    (hEvery : grammar.Every holds)
    (hWeaker :
      ∀ field value, holds field value → others field value) :
    grammar.Every others :=
  ⟨fun entry hEntry => (hEvery.1 entry hEntry).mono hWeaker,
    fun rule hRule => (hEvery.2 rule hRule).mono hWeaker⟩

------------------------------------------------------------
-- Keyed Collections
------------------------------------------------------------

/- Captures are by ascending index. -/
def FieldValue.Keyed : FieldValue → Prop
  | .captures entries => Captures.Ascending entries
  | .pattern _ | .label _ | .children _ => True

/- Captures are by ascending index at any depth. -/
abbrev Rule.Keyed
    (rule : Rule) : Prop :=
  rule.Every fun _ value => value.Keyed

/-
  Captures are by ascending index at any depth, and no name
  of the repository is used twice.
-/
structure Grammar.Keyed
    (grammar : Grammar) : Prop where
  captures : grammar.Every fun _ value => value.Keyed
  names : grammar.repository.names.Nodup

namespace Captures

/- An insertion adds the entry and keeps some of the others. -/
theorem mem_insert
    {index : UInt32}
    {rule : Rule}
    {captures : Captures}
    {entry : UInt32 × Rule}
    (hEntry : entry ∈ captures.insert index rule) :
    entry = (index, rule) ∨ entry ∈ captures := by
  induction captures with
  | nil => exact Or.inl (List.mem_singleton.mp hEntry)
  | cons first rest ih =>
      rcases first with ⟨other, old⟩
      rw [insert] at hEntry
      split at hEntry
      · exact List.mem_cons.mp hEntry
      · split at hEntry
        · rcases List.mem_cons.mp hEntry with hNew | hOld
          · exact Or.inl hNew
          · exact Or.inr (List.mem_cons_of_mem _ hOld)
        · rcases List.mem_cons.mp hEntry with hFirst | hLater
          · exact Or.inr (hFirst ▸ List.mem_cons_self)
          · exact (ih hLater).imp_right
              (List.mem_cons_of_mem _)

/- An insertion keeps the indexes in ascending order. -/
theorem Ascending.insert
    {captures : Captures}
    (hAscending : captures.Ascending)
    (index : UInt32)
    (rule : Rule) :
    (captures.insert index rule).Ascending := by
  induction captures with
  | nil => exact List.pairwise_singleton _ _
  | cons first rest ih =>
      rcases first with ⟨other, old⟩
      have hRest := List.pairwise_cons.mp hAscending
      rw [Captures.insert]
      split
      · rename_i hLess
        refine List.pairwise_cons.mpr ⟨?_, hAscending⟩
        intro entry hEntry
        rcases List.mem_cons.mp hEntry with rfl | hLater
        · exact hLess
        · exact UInt32.lt_trans hLess (hRest.1 entry hLater)
      · split
        · rename_i hEqual
          subst hEqual
          exact List.pairwise_cons.mpr hRest
        · rename_i hNotLess hNotEqual
          refine List.pairwise_cons.mpr ⟨?_, ih hRest.2⟩
          intro entry hEntry
          rcases mem_insert hEntry with rfl | hLater
          · exact UInt32.lt_of_le_of_ne
              (UInt32.not_lt.mp hNotLess) (Ne.symm hNotEqual)
          · exact hRest.1 entry hLater

/- Insertions in a row keep the indexes ascending. -/
theorem Ascending.foldl_insert
    {captures : Captures}
    (hAscending : captures.Ascending)
    (entries : List (UInt32 × Rule)) :
    Ascending
      (entries.foldl
        (fun captures entry =>
          captures.insert entry.1 entry.2)
        captures) := by
  induction entries generalizing captures with
  | nil => exact hAscending
  | cons entry entries ih => exact ih (hAscending.insert _ _)

/- Captures made from a list are by ascending index. -/
theorem ascending_ofList
    (entries : List (UInt32 × Rule)) :
    (ofList entries).Ascending :=
  Ascending.foldl_insert List.Pairwise.nil entries

/- An index above all others goes to the end. -/
theorem insert_of_above
    {index : UInt32}
    {rule : Rule}
    {captures : Captures}
    (hAbove : ∀ entry ∈ captures, entry.1 < index) :
    captures.insert index rule =
      captures ++ [(index, rule)] := by
  induction captures with
  | nil => rfl
  | cons first rest ih =>
      rcases first with ⟨other, old⟩
      have hFirst : other < index :=
        hAbove _ List.mem_cons_self
      have hNotLess : ¬index < other :=
        UInt32.not_lt.mpr (UInt32.le_of_lt hFirst)
      have hNotEqual : index ≠ other :=
        Ne.symm (UInt32.ne_of_lt hFirst)
      rw [insert, if_neg hNotLess, if_neg hNotEqual,
        ih fun entry hEntry =>
          hAbove entry (List.mem_cons_of_mem _ hEntry),
        List.cons_append]

/- Captures that ascend are the captures of their list. -/
theorem ofList_eq_self
    {captures : Captures}
    (hAscending : captures.Ascending) :
    ofList captures = captures := by
  have hFold :
      ∀ (entries : List (UInt32 × Rule)) (before : Captures),
        Ascending (before ++ entries) →
          entries.foldl
              (fun captures entry =>
                captures.insert entry.1 entry.2)
              before =
            before ++ entries := by
    intro entries
    induction entries with
    | nil => exact fun before _ => (List.append_nil before).symm
    | cons entry entries ih =>
        intro before hAll
        have hAbove : ∀ other ∈ before, other.1 < entry.1 :=
          fun other hOther =>
            (List.pairwise_append.mp hAll).2.2 other hOther
              entry List.mem_cons_self
        rw [List.append_cons] at hAll ⊢
        rw [List.foldl_cons, insert_of_above hAbove]
        exact ih _ hAll
  exact hFold captures [] hAscending

/- A new index is only added. -/
theorem insert_perm
    {index : UInt32}
    (rule : Rule)
    {captures : Captures}
    (hNew : index ∉ captures.map Prod.fst) :
    (captures.insert index rule).Perm
      ((index, rule) :: captures) := by
  induction captures with
  | nil => exact List.Perm.refl _
  | cons first rest ih =>
      rcases first with ⟨other, old⟩
      rw [List.map_cons, List.mem_cons, not_or] at hNew
      rw [insert, if_neg hNew.1]
      split
      · exact List.Perm.refl _
      · exact ((ih hNew.2).cons _).trans (List.Perm.swap _ _ _)

/- Captures made from distinct entries have them all. -/
theorem ofList_perm
    {entries : List (UInt32 × Rule)}
    (hDistinct : (entries.map Prod.fst).Nodup) :
    (ofList entries).Perm entries := by
  have hFold :
      ∀ (entries : List (UInt32 × Rule)) (before : Captures),
        ((before ++ entries).map Prod.fst).Nodup →
          (entries.foldl
              (fun captures entry =>
                captures.insert entry.1 entry.2)
              before).Perm
            (before ++ entries) := by
    intro entries
    induction entries with
    | nil =>
        intro before _
        exact List.Perm.of_eq (List.append_nil before).symm
    | cons entry entries ih =>
        intro before hAll
        rw [List.map_append, List.map_cons] at hAll
        have hNew : entry.1 ∉ before.map Prod.fst := fun hOld =>
          (List.nodup_append.mp hAll).2.2 _ hOld _
            List.mem_cons_self rfl
        have hInsert :
            (before.insert entry.1 entry.2 ++ entries).Perm
              (before ++ entry :: entries) :=
          ((insert_perm entry.2 hNew).append_right entries).trans
            List.perm_middle.symm
        refine (ih _ ?_).trans hInsert
        rw [(hInsert.map Prod.fst).nodup_iff, List.map_append,
          List.map_cons]
        exact hAll
  exact hFold entries [] hDistinct

/- An entry of captures made from a list is in the list. -/
theorem mem_of_mem_ofList
    {entries : List (UInt32 × Rule)}
    {entry : UInt32 × Rule}
    (hEntry : entry ∈ ofList entries) :
    entry ∈ entries := by
  have hFold :
      ∀ (entries : List (UInt32 × Rule)) (captures : Captures),
        entry ∈ entries.foldl
            (fun captures entry =>
              captures.insert entry.1 entry.2) captures →
          entry ∈ entries ∨ entry ∈ captures := by
    intro entries
    induction entries with
    | nil => exact fun _ hMember => Or.inr hMember
    | cons first rest ih =>
        intro captures hMember
        rcases ih _ hMember with hRest | hInserted
        · exact Or.inl (List.mem_cons_of_mem _ hRest)
        · rcases mem_insert hInserted with rfl | hOld
          · exact Or.inl List.mem_cons_self
          · exact Or.inr hOld
  rcases hFold entries [] hEntry with hMember | hNone
  · exact hMember
  · exact absurd hNone List.not_mem_nil

end Captures

end TextMate
