import Mathlib.Data.List.Lex
import TextMate.Proofs.Lookup
import TextMate.Proofs.Rule.Visit

/-
  This file gives each rule nested in a rule an address, the
  trail of branches that lead to it, and orders the trails as
  the rules are visited.

  A branch is a capture group of a field or an item of the list
  of a field.  The rule behind a trail is looked up along it, so
  a trail leads to one rule at most, and the order of trails
  does not mention the visit.

  Main declarations:
    * `Branch`, `Branch.path`, `Branch.Before`
    * `Trail`, `Trail.path`, `Trail.Before`
    * `Rule.at?`
    * `Rule.trails`
    * `Rule.mem_trails_iff`
    * `Rule.pairwise_trails`
    * `Rule.visit_eq_map_trails`
-/

namespace TextMate

------------------------------------------------------------
-- Branches
------------------------------------------------------------

/-
  What leads from a rule to one that stands in a field of it: a
  capture group, or a position in a list of rules.
-/
inductive Branch where
  | group (field : Field) (index : UInt32)
  | item (field : Field) (position : Nat)
deriving DecidableEq

/- The number of fields before a field in canonical order. -/
def Field.rank
    (field : Field) : Nat :=
  all.idxOf field

/- The ranks ascend in canonical order. -/
theorem Field.pairwise_rank_all :
    Field.all.Pairwise fun x y => x.rank < y.rank := by
  decide

namespace Branch

/- The path of the rule behind a branch. -/
def path
    (path : String) : Branch → String
  | .group field index =>
      Rule.capturePath (Rule.fieldPath path field) index
  | .item field position =>
      Rule.itemPath (Rule.fieldPath path field) position

/- The field in which a branch leads. -/
def field : Branch → Field
  | .group field _ => field
  | .item field _ => field

/-
  Branches are ordered by their fields, and in the same field by
  the index of the group or the position of the item.
-/
inductive Before : Branch → Branch → Prop where
  | field
      {x y : Branch}
      (hField : x.field.rank < y.field.rank) :
      Before x y
  | group
      {field : Field}
      {x y : UInt32}
      (hIndex : x < y) :
      Before (.group field x) (.group field y)
  | item
      {field : Field}
      {x y : Nat}
      (hPosition : x < y) :
      Before (.item field x) (.item field y)

instance : Std.Asymm Before where
  asymm := by
    intro x y hBefore hAfter
    have hField : ∀ field : Field, ¬field.rank < field.rank :=
      fun field => Nat.lt_irrefl field.rank
    cases hBefore with
    | field hLess =>
        cases hAfter with
        | field hMore => exact Nat.lt_asymm hLess hMore
        | group _ | item _ => exact hField _ hLess
    | group hLess =>
        cases hAfter with
        | field hMore => exact hField _ hMore
        | group hMore => exact UInt32.lt_asymm hLess hMore
    | item hLess =>
        cases hAfter with
        | field hMore => exact hField _ hMore
        | item hMore => exact Nat.lt_asymm hLess hMore

end Branch

------------------------------------------------------------
-- Trails
------------------------------------------------------------

/- The branches from a rule to one nested in it. -/
abbrev Trail := List Branch

namespace Trail

/- The path of the rule behind a trail. -/
def path
    (path : String)
    (trail : Trail) : String :=
  trail.foldl Branch.path path

/-
  A trail comes before those that go on behind it, and other
  trails are ordered by the first branch that differs.
-/
abbrev Before : Trail → Trail → Prop :=
  List.Lex Branch.Before

end Trail

namespace Rule

/- The rule behind a branch. -/
def branch?
    (rule : Rule) : Branch → Option Rule
  | .group field index =>
      match rule.get? field with
      | some (.captures captures) => captures.get? index
      | _ => none
  | .item field position =>
      match rule.get? field with
      | some (.children rules) => rules[position]?
      | _ => none

/- The rule behind a trail. -/
def at?
    (rule : Rule) : Trail → Option Rule
  | [] => some rule
  | branch :: trail =>
      (rule.branch? branch).bind fun inner => inner.at? trail

end Rule

------------------------------------------------------------
-- Branches of Rules
------------------------------------------------------------

/- Numbered items are in the order of their numbers. -/
theorem pairwise_zipIdx
    {α : Type}
    (items : List α) :
    items.zipIdx.Pairwise fun x y => x.2 < y.2 := by
  rw [← List.pairwise_map, List.zipIdx_map_snd]
  exact List.pairwise_lt_range'

/- The rules in the value of a field, each with its branch. -/
def FieldValue.branches
    (field : Field) : FieldValue → List (Branch × Rule)
  | .pattern _ | .label _ => []
  | .captures entries =>
      entries.map fun entry => (.group field entry.1, entry.2)
  | .children rules =>
      rules.zipIdx.map fun item => (.item field item.2, item.1)

namespace FieldValue

/- A visit of a value follows its branches. -/
theorem visit_eq_branches
    (path : String)
    (field : Field)
    (value : FieldValue) :
    value.visit (Rule.fieldPath path field) =
      (value.branches field).flatMap fun entry =>
        entry.2.visit (entry.1.path path) := by
  cases value with
  | pattern _ | label _ => rfl
  | captures entries =>
      rw [visit, Rule.visitCaptures_eq_flatMap, branches,
        List.flatMap_map]
      rfl
  | children rules =>
      rw [visit, Rule.visitRules_eq_flatMap, branches,
        List.flatMap_map]
      rfl

/- A branch of a value leads to a rule that stands in it. -/
theorem mem_rules_of_mem_branches
    {field : Field}
    {value : FieldValue}
    {entry : Branch × Rule}
    (hEntry : entry ∈ value.branches field) :
    entry.2 ∈ value.rules := by
  cases value with
  | pattern _ | label _ => cases hEntry
  | captures entries =>
      rcases List.mem_map.mp hEntry with ⟨_, hRule, rfl⟩
      exact List.mem_map_of_mem hRule
  | children rules =>
      rcases List.mem_map.mp hEntry with ⟨_, hRule, rfl⟩
      exact List.fst_mem_of_mem_zipIdx hRule

/- A branch of a value leads in the field of the value. -/
theorem field_of_mem_branches
    {field : Field}
    {value : FieldValue}
    {entry : Branch × Rule}
    (hEntry : entry ∈ value.branches field) :
    entry.1.field = field := by
  cases value with
  | pattern _ | label _ => cases hEntry
  | captures entries | children rules =>
      rcases List.mem_map.mp hEntry with ⟨_, -, rfl⟩
      rfl

/- The branches of a value are in order. -/
theorem pairwise_branches
    {value : FieldValue}
    (hKeyed : value.Keyed)
    (field : Field) :
    (value.branches field).Pairwise fun x y =>
      x.1.Before y.1 := by
  cases value with
  | pattern _ | label _ => exact List.Pairwise.nil
  | captures entries =>
      rw [branches, List.pairwise_map]
      exact hKeyed.imp .group
  | children rules =>
      rw [branches, List.pairwise_map]
      exact (pairwise_zipIdx rules).imp .item

end FieldValue

/- The indexes of captures are distinct. -/
theorem Captures.Ascending.nodup
    {captures : Captures}
    (hAscending : captures.Ascending) :
    (captures.map Prod.fst).Nodup := by
  rw [List.nodup_iff_pairwise_ne, List.pairwise_map]
  exact hAscending.imp UInt32.ne_of_lt

namespace Rule

/- The rules that stand in a rule, each with its branch. -/
def branches
    (rule : Rule) : List (Branch × Rule) :=
  rule.fields.flatMap fun entry => entry.2.branches entry.1

/- A branch of a rule leads to one in the value of a field. -/
theorem exists_field_of_mem_branches
    {rule : Rule}
    {entry : Branch × Rule}
    (hEntry : entry ∈ rule.branches) :
    ∃ field value, rule.get? field = some value ∧
      entry.2 ∈ value.rules := by
  rcases List.mem_flatMap.mp hEntry with
    ⟨⟨field, value⟩, hField, hBranch⟩
  exact
    ⟨field, value, (rule.mem_fields_iff _ _).mp hField,
      FieldValue.mem_rules_of_mem_branches hBranch⟩

/- A branch of a rule leads to a smaller rule. -/
theorem sizeOf_lt_of_mem_branches
    {rule : Rule}
    {entry : Branch × Rule}
    (hEntry : entry ∈ rule.branches) :
    sizeOf entry.2 < sizeOf rule := by
  rcases exists_field_of_mem_branches hEntry with
    ⟨field, value, hValue, hInner⟩
  exact
    Nat.lt_trans (sizeOf_lt_of_mem_rules hInner)
      (sizeOf_lt_of_get? hValue)

/- The rules behind the branches of a rule are keyed as it is. -/
theorem keyed_of_mem_branches
    {rule : Rule}
    (hKeyed : rule.Keyed)
    {entry : Branch × Rule}
    (hEntry : entry ∈ rule.branches) :
    entry.2.Keyed := by
  rcases exists_field_of_mem_branches hEntry with
    ⟨field, value, hValue, hInner⟩
  exact hKeyed.nested hValue hInner

/- The branches of a rule lead to the rules behind them. -/
theorem mem_branches_iff
    {rule : Rule}
    (hKeyed : rule.Keyed)
    {branch : Branch}
    {inner : Rule} :
    (branch, inner) ∈ rule.branches ↔
      rule.branch? branch = some inner := by
  rw [branches, List.mem_flatMap]
  constructor
  · rintro ⟨⟨field, value⟩, hField, hBranch⟩
    have hGet := (rule.mem_fields_iff _ _).mp hField
    cases value with
    | pattern _ | label _ => cases hBranch
    | captures entries =>
        rcases List.mem_map.mp hBranch with
          ⟨⟨index, nested⟩, hEntry, hEqual⟩
        cases hEqual
        have hDistinct :=
          Captures.Ascending.nodup (hKeyed.own hGet)
        simp only [branch?, hGet]
        exact (lookup_eq_some_iff_mem hDistinct).mpr hEntry
    | children rules =>
        rcases List.mem_map.mp hBranch with
          ⟨⟨nested, position⟩, hItem, hEqual⟩
        cases hEqual
        simp only [branch?, hGet]
        exact List.mk_mem_zipIdx_iff_getElem?.mp hItem
  · intro hBranch
    cases branch with
    | group field index =>
        simp only [branch?] at hBranch
        split at hBranch
        · rename_i captures hGet
          have hDistinct :=
            Captures.Ascending.nodup (hKeyed.own hGet)
          refine
            ⟨(field, .captures captures),
              (rule.mem_fields_iff _ _).mpr hGet, ?_⟩
          have hEntry :=
            (lookup_eq_some_iff_mem hDistinct).mp hBranch
          exact List.mem_map.mpr ⟨_, hEntry, rfl⟩
        · cases hBranch
    | item field position =>
        simp only [branch?] at hBranch
        split at hBranch
        · rename_i rules hGet
          refine
            ⟨(field, .children rules),
              (rule.mem_fields_iff _ _).mpr hGet, ?_⟩
          have hItem :=
            List.mk_mem_zipIdx_iff_getElem?.mpr hBranch
          exact List.mem_map.mpr ⟨_, hItem, rfl⟩
        · cases hBranch

/- The branches of a rule are in order. -/
theorem pairwise_branches
    {rule : Rule}
    (hKeyed : rule.Keyed) :
    rule.branches.Pairwise fun x y => x.1.Before y.1 := by
  rw [branches, List.pairwise_flatMap]
  constructor
  · rintro ⟨field, value⟩ hField
    exact
      FieldValue.pairwise_branches
        (hKeyed.own ((rule.mem_fields_iff _ _).mp hField)) field
  · have hFields :
        (rule.fields.map Prod.fst).Pairwise fun x y =>
          x.rank < y.rank := by
      rw [map_fst_fields]
      exact Field.pairwise_rank_all.filter _
    refine (List.pairwise_map.mp hFields).imp ?_
    intro first second hRank x hFirst y hSecond
    apply Branch.Before.field
    rw [FieldValue.field_of_mem_branches hFirst,
      FieldValue.field_of_mem_branches hSecond]
    exact hRank

/- A rule is visited before what its branches lead to. -/
theorem visit_eq_branches
    (path : String)
    (rule : Rule) :
    rule.visit path =
      (path, rule) ::
        rule.branches.flatMap fun entry =>
          entry.2.visit (entry.1.path path) := by
  rw [visit_eq_cons, branches, List.flatMap_assoc]
  simp only [FieldValue.visit_eq_branches]

------------------------------------------------------------
-- Trails of Rules
------------------------------------------------------------

/- A rule and those nested in it, each with its trail. -/
def trails
    (rule : Rule) : List (Trail × Rule) :=
  ([], rule) ::
    rule.branches.attach.flatMap fun entry =>
      entry.1.2.trails.map fun inner =>
        (entry.1.1 :: inner.1, inner.2)
termination_by sizeOf rule
decreasing_by exact sizeOf_lt_of_mem_branches entry.2

theorem trails_eq_cons
    (rule : Rule) :
    rule.trails =
      ([], rule) ::
        rule.branches.flatMap fun entry =>
          entry.2.trails.map fun inner =>
            (entry.1 :: inner.1, inner.2) := by
  rw [trails]
  conv =>
    rhs
    rw [← List.attach_map_subtype_val rule.branches,
      List.flatMap_map]

/- The trails of a rule lead to the rules behind them. -/
theorem mem_trails_iff
    {rule : Rule}
    (hKeyed : rule.Keyed)
    {trail : Trail}
    {inner : Rule} :
    (trail, inner) ∈ rule.trails ↔
      rule.at? trail = some inner := by
  induction trail generalizing rule with
  | nil =>
      rw [trails_eq_cons, List.mem_cons, at?]
      simp [eq_comm]
  | cons branch trail ih =>
      rw [trails_eq_cons, at?, Option.bind_eq_some_iff]
      simp only [List.mem_cons, Prod.mk.injEq, List.cons_ne_nil,
        false_and, false_or, List.mem_flatMap, List.mem_map,
        List.cons.injEq]
      constructor
      · rintro
          ⟨⟨_, nested⟩, hEntry, ⟨_, _⟩, hInner,
            ⟨rfl, rfl⟩, rfl⟩
        have hNested := keyed_of_mem_branches hKeyed hEntry
        exact
          ⟨nested, (mem_branches_iff hKeyed).mp hEntry,
            (ih hNested).mp hInner⟩
      · rintro ⟨nested, hBranch, hInner⟩
        have hEntry := (mem_branches_iff hKeyed).mpr hBranch
        have hNested := keyed_of_mem_branches hKeyed hEntry
        exact
          ⟨_, hEntry, _, (ih hNested).mpr hInner,
            ⟨rfl, rfl⟩, rfl⟩

/- The trails of a rule are in order. -/
theorem pairwise_trails
    {rule : Rule}
    (hKeyed : rule.Keyed) :
    rule.trails.Pairwise fun x y => x.1.Before y.1 := by
  induction rule using Rule.induction with
  | step rule ih =>
      rw [trails_eq_cons, List.pairwise_cons,
        List.pairwise_flatMap]
      refine ⟨?_, ?_, ?_⟩
      · intro later hLater
        rcases List.mem_flatMap.mp hLater with
          ⟨entry, -, hInner⟩
        rcases List.mem_map.mp hInner with ⟨_, -, rfl⟩
        exact .nil
      · intro entry hEntry
        rcases exists_field_of_mem_branches hEntry with
          ⟨field, value, hValue, hInner⟩
        rw [List.pairwise_map]
        exact
          (ih field value hValue entry.2 hInner
            (keyed_of_mem_branches hKeyed hEntry)).imp .cons
      · refine (pairwise_branches hKeyed).imp ?_
        intro first second hBefore x hFirst y hSecond
        rcases List.mem_map.mp hFirst with ⟨_, -, rfl⟩
        rcases List.mem_map.mp hSecond with ⟨_, -, rfl⟩
        exact .rel hBefore

/- A rule is visited along its trails. -/
theorem visit_eq_map_trails
    (path : String)
    (rule : Rule) :
    rule.visit path =
      rule.trails.map fun entry =>
        (entry.1.path path, entry.2) := by
  induction rule using Rule.induction generalizing path with
  | step rule ih =>
      rw [visit_eq_branches, trails_eq_cons, List.map_cons,
        List.map_flatMap]
      refine congrArg _ (List.flatMap_congr ?_)
      intro entry hEntry
      rcases exists_field_of_mem_branches hEntry with
        ⟨field, value, hValue, hInner⟩
      rw [ih field value hValue entry.2 hInner, List.map_map]
      rfl

end Rule

end TextMate
