import TextMate.Proofs.Import.Events
import TextMate.Proofs.Import.Nested

/-
  This file proves that the order of keys in rules does not
  matter to an import.

  The walks over two rules that are equal up to the order of
  keys keep the same and find the same in another order.  The
  members of the two pair up at each level, and what a walk
  makes of a member does not depend on those around it.  The
  order of the entries of captures counts only where two of them
  name the same group, which is excluded.

  Main declarations:
    * `Import.Walk.Alike`
    * `Import.DistinctGroups`
    * `Import.alike_walkRule`
    * `importRule_same`
-/

namespace TextMate

------------------------------------------------------------
-- Lists That Pair Up
------------------------------------------------------------

section Pairings

variable {α β : Type}
variable {first second : List α}
variable {pair : α → α}

/- What is gathered of pairs alike is gathered in any order. -/
theorem flatMap_perm_of_pairing
    {gather : α → List β}
    (hPairs : (first.map pair).Perm second)
    (hAlike :
      ∀ item ∈ first, (gather item).Perm (gather (pair item))) :
    (first.flatMap gather).Perm (second.flatMap gather) := by
  have hOwn :
      (first.flatMap gather).Perm
        ((first.map pair).flatMap gather) := by
    rw [List.flatMap_map]
    exact List.Perm.flatMap_left first hAlike
  exact hOwn.trans (hPairs.flatMap_right gather)

/- What is kept of pairs alike is kept in any order. -/
theorem filterMap_perm_of_pairing
    {keep : α → Option β}
    (hPairs : (first.map pair).Perm second)
    (hAlike : ∀ item ∈ first, keep item = keep (pair item)) :
    (first.filterMap keep).Perm (second.filterMap keep) := by
  have hOwn :
      first.filterMap keep =
        (first.map pair).filterMap keep := by
    rw [List.filterMap_map]
    exact List.filterMap_congr hAlike
  rw [hOwn]
  exact hPairs.filterMap keep

end Pairings

/- Captures do not depend on the order of distinct entries. -/
theorem Captures.ofList_eq_of_perm
    {entries others : List (UInt32 × Rule)}
    (hPerm : entries.Perm others)
    (hDistinct : (entries.map Prod.fst).Nodup) :
    ofList entries = ofList others := by
  have hOthers : (others.map Prod.fst).Nodup :=
    (hPerm.map Prod.fst).nodup_iff.mp hDistinct
  have hSame : (ofList entries).Perm (ofList others) :=
    (ofList_perm hDistinct).trans
      (hPerm.trans (ofList_perm hOthers).symm)
  refine
    hSame.eq_of_pairwise ?_ (ascending_ofList entries)
      (ascending_ofList others)
  intro x y _ _ hLess hGreater
  exact absurd (UInt32.lt_trans hLess hGreater) (UInt32.lt_irrefl _)

namespace Import

------------------------------------------------------------
-- Walks Alike
------------------------------------------------------------

/-
  Two walks keep what is related, and come to the same findings
  and captures keys in some order.
-/
structure Walk.Alike
    {α : Type}
    (related : α → α → Prop)
    (first second : Walk α) : Prop where
  kept : related first.kept second.kept
  findings : first.findings.Perm second.findings
  keys : first.keys.Perm second.keys

namespace Walk.Alike

variable {α β γ : Type}

theorem refl
    (walk : Walk α) :
    walk.Alike Eq walk :=
  ⟨rfl, List.Perm.refl _, List.Perm.refl _⟩

theorem map
    {related : α → α → Prop}
    {first second : Walk α}
    (hAlike : first.Alike related second)
    {change : α → β}
    {changed : β → β → Prop}
    (hChange :
      related first.kept second.kept →
        changed (change first.kept) (change second.kept)) :
    (first.map change).Alike changed (second.map change) :=
  ⟨hChange hAlike.kept, hAlike.findings, hAlike.keys⟩

theorem below
    {related : α → α → Prop}
    {first second : Walk α}
    (hAlike : first.Alike related second)
    (step : Step) :
    (first.below step).Alike related (second.below step) :=
  ⟨hAlike.kept, hAlike.findings.map _, hAlike.keys.map _⟩

theorem join
    {related : α → α → Prop}
    {first second : Walk α}
    (hFirst : first.Alike related second)
    {next other : Walk β}
    (hNext : next.Alike Eq other)
    {combine : α → β → γ}
    (hCombine :
      related first.kept second.kept →
        ∀ kept, combine first.kept kept =
          combine second.kept kept) :
    (first.join combine next).Alike Eq
      (second.join combine other) := by
  refine
    ⟨?_, hFirst.findings.append hNext.findings,
      hFirst.keys.append hNext.keys⟩
  rw [Walk.join, Walk.join, hNext.kept]
  exact hCombine hFirst.kept _

end Walk.Alike

/- What is settled does not depend on the order of fields. -/
theorem settled_eq_of_perm
    {outcomes others : Outcomes}
    (hPerm : outcomes.Perm others)
    (hDistinct : (outcomes.map Prod.fst).Nodup)
    (hKinds :
      ∀ field value, (field, some value) ∈ outcomes →
        value.kind = field.kind) :
    settled outcomes = settled others := by
  have hOthers : (others.map Prod.fst).Nodup :=
    (hPerm.map Prod.fst).nodup_iff.mp hDistinct
  have hOtherKinds :
      ∀ field value, (field, some value) ∈ others →
        value.kind = field.kind :=
    fun field value hMember =>
      hKinds field value (hPerm.mem_iff.mpr hMember)
  -- Where no field comes twice, a lookup is a membership.
  have hLookup :
      ∀ field, outcomes.lookup field = others.lookup field := by
    intro field
    refine Option.ext fun kept => ?_
    rw [lookup_eq_some_iff_mem hDistinct,
      lookup_eq_some_iff_mem hOthers, hPerm.mem_iff]
  have hRule :
      assemble .empty outcomes = assemble .empty others := by
    refine Rule.ext_get? fun field => ?_
    rw [get?_assemble hDistinct hKinds,
      get?_assemble hOthers hOtherKinds, hLookup]
  have hLoses :
      losesDelimiter outcomes = losesDelimiter others :=
    hPerm.any_eq
  unfold settled
  rw [hRule, hLoses]

------------------------------------------------------------
-- Members in Any Order
------------------------------------------------------------

variable (check : Acceptance)

section Members

variable {first second : Json.Object}
variable {pair : String × Json.Value → String × Json.Value}

/- What a walk makes of two members with the same key. -/
theorem alike_member
    {member other : String × Json.Value}
    (hKey : other.1 = member.1)
    (hValue :
      ∀ field : Field, field.key = member.1 →
        (walkValue check field member.2).Alike Eq
          (walkValue check field other.2)) :
    memberOutcome? check member = memberOutcome? check other ∧
      (memberFindings check member).Perm
        (memberFindings check other) ∧
      (memberKeys check member).Perm
        (memberKeys check other) := by
  unfold memberOutcome? memberFindings memberKeys
  rw [hKey]
  cases hField : Field.ofKey? member.1 with
  | none => exact ⟨rfl, List.Perm.refl _, List.Perm.refl _⟩
  | some field =>
      have hOwn :=
        hValue field (Field.ofKey?_eq_some_iff.mp hField).symm
      refine ⟨?_, (hOwn.below _).findings, (hOwn.below _).keys⟩
      rw [Option.map_some, Option.map_some, hOwn.kept]

/- Walks over rules are alike if those over their members are. -/
theorem alike_walkRule_of_pairing
    (hKeys : first.keys.Nodup)
    (hPairs : (first.map pair).Perm second)
    (hMembers :
      ∀ member ∈ first, (pair member).1 = member.1 ∧
        ∀ field : Field, field.key = member.1 →
          (walkValue check field member.2).Alike Eq
            (walkValue check field (pair member).2)) :
    (walkRule check first).Alike Eq (walkRule check second) := by
  have hAlike := fun member hMember =>
    alike_member check (hMembers member hMember).1
      (hMembers member hMember).2
  have hOutcomes :
      (walkMembers check first).Alike List.Perm
        (walkMembers check second) := by
    constructor
    · rw [kept_walkMembers, kept_walkMembers]
      exact
        filterMap_perm_of_pairing hPairs fun member hMember =>
          (hAlike member hMember).1
    · rw [findings_walkMembers, findings_walkMembers]
      exact
        flatMap_perm_of_pairing hPairs fun member hMember =>
          (hAlike member hMember).2.1
    · rw [keys_walkMembers, keys_walkMembers]
      exact
        flatMap_perm_of_pairing hPairs fun member hMember =>
          (hAlike member hMember).2.2
  have hSettled :
      settled (walkMembers check first).kept =
        settled (walkMembers check second).kept :=
    settled_eq_of_perm hOutcomes.kept
      (nodup_fields_walkMembers check hKeys)
      fun _ _ => kind_of_mem_walkMembers check
  simp only [walkRule, hSettled]
  exact hOutcomes.join (.refl _) fun _ _ => rfl

/- Walks over captures are alike if those over entries are. -/
theorem alike_walkCaptures_of_pairing
    (hPairs : (first.map pair).Perm second)
    (hEntries :
      ∀ entry ∈ first, (pair entry).1 = entry.1 ∧
        (walkNested check entry.2).Alike Eq
          (walkNested check (pair entry).2)) :
    (walkCaptures check first).Alike List.Perm
      (walkCaptures check second) := by
  refine ⟨?_, ?_, ?_⟩
  · rw [kept_walkCaptures_eq_filterMap,
      kept_walkCaptures_eq_filterMap]
    refine filterMap_perm_of_pairing hPairs ?_
    intro entry hEntry
    rcases hEntries entry hEntry with ⟨hKey, hRule⟩
    unfold groupRule?
    rw [hKey, hRule.kept]
  · rw [findings_walkCaptures, findings_walkCaptures]
    refine flatMap_perm_of_pairing hPairs ?_
    intro entry hEntry
    rcases hEntries entry hEntry with ⟨hKey, hRule⟩
    rw [hKey]
    exact (hRule.below _).findings
  · rw [keys_walkCaptures, keys_walkCaptures]
    refine flatMap_perm_of_pairing hPairs ?_
    intro entry hEntry
    rcases hEntries entry hEntry with ⟨hKey, hRule⟩
    rw [hKey]
    exact (hRule.below _).keys.cons _

end Members

/- Walks over items are alike if they are item by item. -/
theorem alike_walkItems
    {items others : List Json.Value}
    (hItems :
      List.Forall₂
        (fun item other =>
          (walkNested check item).Alike Eq
            (walkNested check other))
        items others)
    (position : Nat) :
    (walkItems check position items).Alike Eq
      (walkItems check position others) := by
  induction hItems generalizing position with
  | nil => exact .refl _
  | cons hItem _ ih =>
      rw [walkItems, walkItems]
      refine (hItem.below _).join (ih (position + 1)) ?_
      intro hKept rules
      rw [hKept]

------------------------------------------------------------
-- Rules That Are Equal up to Order
------------------------------------------------------------

/- No captures of a rule, at any depth, name a group twice. -/
def DistinctGroups
    (members : Json.Object) : Prop :=
  ∀ place entries, ReachesCaptures members place entries →
    (entries.keys.filterMap groupIndex?).Nodup

namespace DistinctGroups

variable {members : Json.Object}
variable {field : Field}
variable {value : Json.Value}

/- The captures of a rule name groups once. -/
theorem captures
    (hGroups : DistinctGroups members)
    {entries : Json.Object}
    (hMember : (field.key, .object entries) ∈ members)
    (hKind : field.kind = .captures) :
    (entries.keys.filterMap groupIndex?).Nodup :=
  hGroups _ entries (.member field .self hKind hMember)

/- So do those of the rules nested in it. -/
theorem nested
    (hGroups : DistinctGroups members)
    (hMember : (field.key, value) ∈ members)
    {step : Step}
    {inner : Json.Object}
    (hHolds : HoldsRule field value step inner) :
    DistinctGroups inner :=
  fun _ entries hReached =>
    hGroups _ entries (hReached.nested hMember hHolds)

end DistinctGroups

/- Only an object is nested as a rule, so nothing else counts. -/
theorem alike_walkNested
    {value other : Json.Value}
    (hSame : value.same other = true)
    (hRules :
      ∀ members others : Json.Object, value = .object members →
        other = .object others →
          members.same others = true →
            (walkRule check members).Alike Eq
              (walkRule check others)) :
    (walkNested check value).Alike Eq
      (walkNested check other) := by
  cases value with
  | object members =>
      rcases Json.Value.exists_object_of_same hSame with
        ⟨others, rfl, hMembers⟩
      rw [walkNested_object, walkNested_object]
      exact
        (hRules members others rfl rfl hMembers).map
          (congrArg some)
  | null | bool _ | number _ | string _ =>
      cases other with
      | null | bool _ | number _ | string _ => exact .refl _
      | array _ | object _ => cases hSame
  | array _ =>
      rcases Json.Value.exists_array_of_same hSame with
        ⟨others, rfl, -⟩
      exact .refl _

/-
  Walks over captures that are equal up to order come to equal
  captures, if no group is named twice.
-/
theorem alike_captures
    {entries others : Json.Object}
    (hSame : entries.same others = true)
    (hFirst : (Json.Value.object entries).Tidy)
    (hSecond : (Json.Value.object others).Tidy)
    (hGroups : (entries.keys.filterMap groupIndex?).Nodup)
    (hRules :
      ∀ (key : String) (members inner : Json.Object),
        (key, .object members) ∈ entries →
          (key, .object inner) ∈ others →
            members.same inner = true →
              (walkRule check members).Alike Eq
                (walkRule check inner)) :
    ((walkCaptures check entries).map fun groups =>
        some (FieldValue.captures (.ofList groups))).Alike Eq
      ((walkCaptures check others).map fun groups =>
        some (FieldValue.captures (.ofList groups))) := by
  rcases Json.Object.exists_pairing_of_same hFirst.keys
    hSecond.keys hSame with ⟨pair, hPairs, hPair⟩
  have hDistinct :
      ((walkCaptures check entries).kept.map
        Prod.fst).Nodup := by
    rw [indexes_walkCaptures, namedGroups]
    rw [Json.Object.keys, List.filterMap_map] at hGroups
    exact hGroups.sublist (List.filter_sublist.filterMap _)
  have hEntries :
      (walkCaptures check entries).Alike List.Perm
        (walkCaptures check others) := by
    refine alike_walkCaptures_of_pairing check hPairs ?_
    rintro ⟨key, value⟩ hEntry
    rcases hPair _ hEntry with ⟨hKey, hValue⟩
    refine ⟨hKey, alike_walkNested check hValue ?_⟩
    rintro members inner rfl hInner hMembers
    have hOther : pair (key, .object members) ∈ others :=
      hPairs.mem_iff.mp (List.mem_map_of_mem hEntry)
    have hPaired :
        pair (key, .object members) = (key, .object inner) :=
      Prod.ext hKey hInner
    rw [hPaired] at hOther
    exact hRules key members inner hEntry hOther hMembers
  refine hEntries.map fun hPerm => ?_
  rw [Captures.ofList_eq_of_perm hPerm hDistinct]

/-
  Walks over arrays that are equal up to order are alike if
  those over the rules in them are.
-/
theorem alike_items
    {items others : List Json.Value}
    (hSame : Json.sameItems items others = true)
    (hRules :
      ∀ members inner : Json.Object,
        .object members ∈ items → .object inner ∈ others →
          members.same inner = true →
            (walkRule check members).Alike Eq
              (walkRule check inner)) :
    (walkItems check 0 items).Alike Eq
      (walkItems check 0 others) := by
  rcases List.forall₂_iff_zip.mp
    (Json.forall₂_of_sameItems hSame) with ⟨hLength, hItems⟩
  refine
    alike_walkItems check
      (List.forall₂_iff_zip.mpr ⟨hLength, ?_⟩) 0
  intro item other hBoth
  refine alike_walkNested check (hItems hBoth) ?_
  rintro members inner rfl rfl hMembers
  rcases List.of_mem_zip hBoth with ⟨hItem, hOther⟩
  exact hRules members inner hItem hOther hMembers

/-
  Walks over values of a field that are equal up to order are
  alike if those over the rules that the first one holds are.
-/
theorem alike_walkValue
    {field : Field}
    {value other : Json.Value}
    (hSame : value.same other = true)
    (hFirst : value.Tidy)
    (hSecond : other.Tidy)
    (hGroups :
      ∀ entries : Json.Object, field.kind = .captures →
        value = .object entries →
          (entries.keys.filterMap groupIndex?).Nodup)
    (hRules :
      ∀ (step : Step) (members others : Json.Object),
        HoldsRule field value step members →
          members.same others = true →
          (Json.Value.object others).Tidy →
            (walkRule check members).Alike Eq
              (walkRule check others)) :
    (walkValue check field value).Alike Eq
      (walkValue check field other) := by
  cases value with
  | null | bool _ | number _ =>
      cases other with
      | null | bool _ | number _ => exact .refl _
      | string _ | array _ | object _ => cases hSame
  | string text =>
      cases other with
      | string _ =>
          rw [eq_of_beq hSame]
          exact .refl _
      | null | bool _ | number _ | array _ | object _ =>
          cases hSame
  | array items =>
      rcases Json.Value.exists_array_of_same hSame with
        ⟨others, rfl, hItems⟩
      cases hKind : field.kind with
      | children =>
          simp only [walkValue, hKind]
          refine (alike_items check hItems ?_).map ?_
          · intro members inner hItem hOther hMembers
            rcases Rule.exists_mem_zipIdx hItem with
              ⟨position, hPosition⟩
            exact
              hRules _ members inner (.item hKind hPosition)
                hMembers (hSecond.items _ hOther)
          · intro hKept
            rw [hKept]
      | pattern | label | captures =>
          simp only [walkValue, hKind]
          exact .refl _
  | object entries =>
      rcases Json.Value.exists_object_of_same hSame with
        ⟨others, rfl, hEntries⟩
      cases hKind : field.kind with
      | captures =>
          simp only [walkValue, hKind]
          refine
            alike_captures check hEntries hFirst hSecond
              (hGroups entries hKind rfl) ?_
          intro key members inner hEntry hOther hMembers
          exact
            hRules _ members inner (.group hKind hEntry)
              hMembers (hSecond.members _ hOther)
      | pattern | label | children =>
          simp only [walkValue, hKind]
          exact .refl _

/-
  Walks over rules that are equal up to order are alike, if no
  captures name a group twice.
-/
theorem alike_walkRule
    {first second : Json.Object}
    (hSame : first.same second = true)
    (hFirst : (Json.Value.object first).Tidy)
    (hSecond : (Json.Value.object second).Tidy)
    (hGroups : DistinctGroups first) :
    (walkRule check first).Alike Eq (walkRule check second) := by
  induction first using objectInduction
    generalizing second with
  | step first ih =>
      -- The members pair up, and so do the rules that they hold.
      rcases Json.Object.exists_pairing_of_same hFirst.keys
        hSecond.keys hSame with ⟨pair, hPairs, hPair⟩
      refine
        alike_walkRule_of_pairing check hFirst.keys hPairs ?_
      rintro ⟨key, value⟩ hMember
      rcases hPair _ hMember with ⟨hKey, hValue⟩
      refine ⟨hKey, ?_⟩
      rintro field rfl
      have hOther : pair (field.key, value) ∈ second :=
        hPairs.mem_iff.mp (List.mem_map_of_mem hMember)
      refine
        alike_walkValue check hValue (hFirst.members _ hMember)
          (hSecond.members _ hOther) ?_ ?_
      · rintro entries hKind rfl
        exact hGroups.captures hMember hKind
      · intro step members others hHolds hEqual hTidy
        exact
          ih field value step members hMember hHolds hEqual
            (hHolds.tidy (hFirst.members _ hMember)) hTidy
            (hGroups.nested hMember hHolds)

end Import

open Import

/-
  The order of the keys of rules, at any depth, does not matter
  to their import, if no captures have two keys for the same
  group: the import of both rules succeeds or that of none.  The
  rules that are imported are then equal, as are their compact
  texts, and what is reported is the same in some order.

  No object has a key twice.
-/
theorem importRule_same
    (check : Acceptance)
    (path : String)
    (first second : Json.Object)
    (hFirst : (Json.Value.object first).Tidy)
    (hSecond : (Json.Value.object second).Tidy)
    (hSame : first.same second = true)
    (hGroups : DistinctGroups first)
    (journal : Journal) :
    let result := (importRule check path first).start journal
    let other := (importRule check path second).start journal
    ((∃ rule, result.1 = .ok rule) ↔
        ∃ rule, other.1 = .ok rule) ∧
      ∀ rule otherRule, result.1 = .ok rule →
        other.1 = .ok otherRule →
          rule = otherRule ∧
            result.2.diagnostics.Perm other.2.diagnostics ∧
            rule.toObject.compactText =
              otherRule.toObject.compactText := by
  intro result other
  have hAlike := alike_walkRule check hSame hFirst hSecond hGroups
  have hFollows := importRule_follows check path first
  have hOther := importRule_follows check path second
  have hErrors :
      ((walkRule check first).errors path).Perm
        ((walkRule check second).errors path) :=
    hAlike.keys.filterMap _
  constructor
  · constructor
    · rintro ⟨rule, hRule⟩
      have hNone := hFollows.errors_eq_nil hRule
      rw [hNone] at hErrors
      have hStart := hOther journal
      rw [hErrors.nil_eq.symm] at hStart
      exact ⟨_, hStart.1⟩
    · rintro ⟨rule, hRule⟩
      have hNone := hOther.errors_eq_nil hRule
      rw [hNone] at hErrors
      have hStart := hFollows journal
      rw [hErrors.eq_nil] at hStart
      exact ⟨_, hStart.1⟩
  · intro rule otherRule hRule hOtherRule
    rcases hFollows.of_ok hRule with ⟨-, rfl, hFound⟩
    rcases hOther.of_ok hOtherRule with ⟨-, rfl, hOtherFound⟩
    refine ⟨hAlike.kept, ?_, by rw [hAlike.kept]⟩
    rw [hFound, hOtherFound]
    exact (hAlike.findings.map _).append_left _

/-
  Two rules with the same members in another order, those of
  nested rules and of captures among them.  Both lose a captures
  entry, a begin, and the end that was its pair.
-/
def orderedMembers : Json.Object :=
  [("name", .string "group"),
    ("captures",
      .object
        [("0", .null),
          ("+1",
            .object
              [("name", .string "one"),
                ("match", .string "b")])]),
    ("begin", .null),
    ("end", .string "e")]

def reorderedMembers : Json.Object :=
  [("end", .string "e"),
    ("begin", .null),
    ("captures",
      .object
        [("+1",
            .object
              [("match", .string "b"),
                ("name", .string "one")]),
          ("0", .null)]),
    ("name", .string "group")]

/- The captures of the rule name two groups. -/
theorem distinctGroups_orderedMembers :
    DistinctGroups orderedMembers := by
  intro place entries hReached
  rcases hReached with ⟨field, hReaches, hKind, hMember⟩
  cases hReaches with
  | self =>
      simp only [orderedMembers, List.mem_cons, Prod.mk.injEq,
        List.not_mem_nil, or_false, reduceCtorEq, and_false,
        false_or, Json.Value.object.injEq] at hMember
      rw [hMember.2]
      decide
  | nested hOuter hHolds hInner =>
      simp only [orderedMembers, List.mem_cons, Prod.mk.injEq,
        List.not_mem_nil, or_false] at hOuter
      rcases hOuter with
        ⟨-, rfl⟩ | ⟨-, rfl⟩ | ⟨-, rfl⟩ | ⟨-, rfl⟩ <;>
        cases hHolds
      rename_i hEntry
      simp only [List.mem_cons, Prod.mk.injEq,
        List.not_mem_nil, or_false, reduceCtorEq, and_false,
        false_or, Json.Value.object.injEq] at hEntry
      rcases hEntry with ⟨-, rfl⟩
      cases hInner with
      | self => simp at hMember
      | nested hOuter hHolds _ =>
          simp only [List.mem_cons, Prod.mk.injEq,
            List.not_mem_nil, or_false] at hOuter
          rcases hOuter with ⟨-, rfl⟩ | ⟨-, rfl⟩ <;> cases hHolds

/- The reports change places, and nothing else changes. -/
theorem importRule_same_orderedMembers :
    let check : Acceptance := fun _ => none
    let result :=
      (importRule check "" orderedMembers).start Journal.empty
    let other :=
      (importRule check "" reorderedMembers).start Journal.empty
    orderedMembers.same reorderedMembers = true ∧
      DistinctGroups orderedMembers ∧
      (∃ rule, other.1 = .ok rule) ∧
      result.2.diagnostics ≠ other.2.diagnostics ∧
      result.2.diagnostics.Perm other.2.diagnostics := by
  intro check result other
  have hFirst : (Json.Value.object orderedMembers).Tidy := by
    decide
  have hSecond : (Json.Value.object reorderedMembers).Tidy := by
    decide
  have hSame : orderedMembers.same reorderedMembers = true := by
    decide
  have hBoth :=
    importRule_same check "" orderedMembers reorderedMembers
      hFirst hSecond hSame distinctGroups_orderedMembers
      Journal.empty
  have hRule : ∃ rule, result.1 = .ok rule := ⟨_, rfl⟩
  have hOther : ∃ rule, other.1 = .ok rule := hBoth.1.mp hRule
  rcases hRule with ⟨rule, hRule⟩
  refine ⟨hSame, distinctGroups_orderedMembers, hOther, ?_, ?_⟩
  · decide
  · rcases hOther with ⟨otherRule, hOther⟩
    exact (hBoth.2 rule otherRule hRule hOther).2.1

end TextMate
