import TextMate.Proofs.Rule.Every

/-
  This file describes the visit of a rule by its fields, and
  a property of all fields at any depth as one of the rules
  that are visited.  Such a property is decided by a visit.

  Main declarations:
    * `Rule.visit_eq_cons`
    * `Rule.every_iff_visit`
    * `Grammar.every_iff_visit`
-/

namespace TextMate

/- Visit the rules that stand in a value. -/
def FieldValue.visit
    (path : String) : FieldValue → List (String × Rule)
  | .pattern _ | .label _ => []
  | .captures entries => Rule.visitCaptures path entries
  | .children rules => Rule.visitRules path 0 rules

namespace Rule

------------------------------------------------------------
-- Visits by Fields
------------------------------------------------------------

/- A rule is visited before its fields in canonical order. -/
theorem visit_eq_cons
    (path : String)
    (rule : Rule) :
    rule.visit path =
      (path, rule) ::
        rule.fields.flatMap fun entry =>
          entry.2.visit (fieldPath path entry.1) := by
  have hCaptures :
      ∀ (path : String) (captures : Option Captures),
        visitCaptures? path captures =
          (captures.map FieldValue.captures).toList.flatMap
            (FieldValue.visit path) := by
    intro path captures
    cases captures with
    | none => rfl
    | some captures =>
        exact (List.append_nil (visitCaptures path captures)).symm
  have hRules :
      ∀ (path : String) (rules : Option (List Rule)),
        visitRules? path rules =
          (rules.map FieldValue.children).toList.flatMap
            (FieldValue.visit path) := by
    intro path rules
    cases rules with
    | none => rfl
    | some rules =>
        exact (List.append_nil (visitRules path 0 rules)).symm
  have hNone :
      ∀ {α : Type} (path : String) (value : Option α)
        (wrap : α → FieldValue),
        (∀ inner, (wrap inner).visit path = []) →
          (value.map wrap).toList.flatMap
              (FieldValue.visit path) =
            [] := by
    intro α path value wrap hWrap
    cases value with
    | none => rfl
    | some inner => simp [hWrap]
  cases rule
  simp only [visit, fields_eq_flatMap, Field.all,
    List.flatMap_cons, List.flatMap_nil, List.append_nil,
    List.flatMap_append, List.flatMap_map, get?]
  rw [hNone, hNone, hNone, hNone, hNone, hNone, hNone]
  · simp only [hCaptures, hRules, List.nil_append,
      List.append_assoc]
  all_goals exact fun _ => rfl

theorem visitCaptures_eq_flatMap
    (path : String)
    (captures : Captures) :
    visitCaptures path captures =
      captures.flatMap fun entry =>
        entry.2.visit (capturePath path entry.1) := by
  induction captures with
  | nil => rfl
  | cons entry rest ih =>
      rw [visitCaptures, ih, List.flatMap_cons]

theorem visitRules_eq_flatMap
    (path : String)
    (position : Nat)
    (rules : List Rule) :
    visitRules path position rules =
      (rules.zipIdx position).flatMap fun item =>
        item.1.visit (itemPath path item.2) := by
  induction rules generalizing position with
  | nil => rfl
  | cons rule rest ih =>
      rw [visitRules, ih, List.zipIdx_cons, List.flatMap_cons]

------------------------------------------------------------
-- Properties of Visited Rules
------------------------------------------------------------

/- A property of all items is one of the numbered items. -/
theorem forall_mem_iff_zipIdx
    {α : Type}
    {holds : α → Prop}
    (items : List α)
    (start : Nat) :
    (∀ item ∈ items, holds item) ↔
      ∀ entry ∈ items.zipIdx start, holds entry.1 := by
  conv =>
    lhs
    rw [← List.zipIdx_map_fst start items]
  exact List.forall_mem_map

/- Each item of a list is a numbered one. -/
theorem exists_mem_zipIdx
    {α : Type}
    {items : List α}
    {item : α}
    (hItem : item ∈ items) :
    ∃ position, (item, position) ∈ items.zipIdx := by
  rw [← List.zipIdx_map_fst 0 items] at hItem
  rcases List.mem_map.mp hItem with ⟨⟨_, position⟩, hEntry, rfl⟩
  exact ⟨position, hEntry⟩

/-
  A property of all fields at any depth is one of the fields
  of the rules that are visited.
-/
theorem every_iff_visit
    {holds : Field → FieldValue → Prop}
    (rule : Rule)
    (path : String) :
    rule.Every holds ↔
      ∀ visited ∈ rule.visit path,
        ∀ entry ∈ visited.2.fields, holds entry.1 entry.2 := by
  induction rule using Rule.induction generalizing path with
  | step rule ih =>
      have hValue :
          ∀ entry ∈ rule.fields, ∀ path,
            (∀ inner ∈ entry.2.rules, inner.Every holds) ↔
              ∀ visited ∈ entry.2.visit path,
                ∀ entry ∈ visited.2.fields,
                  holds entry.1 entry.2 := by
        rintro ⟨field, value⟩ hField path
        have hInner :=
          ih field value ((rule.mem_fields_iff _ _).mp hField)
        cases value with
        | pattern value | label value =>
            simp [FieldValue.rules, FieldValue.visit]
        | captures entries =>
            simp only [FieldValue.rules, FieldValue.visit,
              visitCaptures_eq_flatMap, List.forall_mem_map,
              List.forall_mem_flatMap]
            exact forall₂_congr fun entry hEntry =>
              hInner entry.2 (List.mem_map_of_mem hEntry) _
        | children rules =>
            simp only [FieldValue.rules, FieldValue.visit,
              visitRules_eq_flatMap, List.forall_mem_flatMap]
            rw [forall_mem_iff_zipIdx rules 0]
            exact forall₂_congr fun item hItem =>
              hInner item.1 (List.fst_mem_of_mem_zipIdx hItem) _
      rw [Every.iff_fields, visit_eq_cons,
        List.forall_mem_cons, List.forall_mem_flatMap]
      simp only [imp_and, forall_and]
      exact and_congr_right fun _ =>
        forall₂_congr fun entry hEntry => hValue entry hEntry _

end Rule

/- A property of all rules of a grammar is of those visited. -/
theorem Grammar.every_iff_visit
    {holds : Field → FieldValue → Prop}
    (grammar : Grammar) :
    grammar.Every holds ↔
      ∀ visited ∈ grammar.visit,
        ∀ entry ∈ visited.2.fields, holds entry.1 entry.2 := by
  rw [Every, Rule.forall_mem_iff_zipIdx grammar.patterns 0,
    visit,    List.forall_mem_append, Rule.visitRules_eq_flatMap,
    List.forall_mem_flatMap, List.forall_mem_flatMap]
  exact and_congr
    (forall₂_congr fun entry _ => entry.2.every_iff_visit _)
    (forall₂_congr fun item _ => item.1.every_iff_visit _)

------------------------------------------------------------
-- Decisions
------------------------------------------------------------

section Decisions

variable {holds : Field → FieldValue → Prop}
variable [∀ field value, Decidable (holds field value)]

instance (grammar : Grammar) :
    Decidable (grammar.Every holds) :=
  decidable_of_iff _ grammar.every_iff_visit.symm

end Decisions

instance : DecidablePred FieldValue.Keyed
  | .captures entries =>
      inferInstanceAs
        (Decidable (entries.Pairwise fun x y => x.1 < y.1))
  | .pattern _ | .label _ | .children _ =>
      inferInstanceAs (Decidable True)

instance (grammar : Grammar) : Decidable grammar.Keyed :=
  decidable_of_iff
    ((grammar.Every fun _ value => value.Keyed) ∧
      grammar.repository.names.Nodup)
    ⟨fun hBoth => ⟨hBoth.1, hBoth.2⟩,
      fun hKeyed => ⟨hKeyed.captures, hKeyed.names⟩⟩

end TextMate
