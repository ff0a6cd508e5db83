import TextMate.Proofs.Import.Assemble
import TextMate.Proofs.Import.CanonicalKeys
import TextMate.Proofs.Import.Prune
import TextMate.Proofs.Pattern
import TextMate.Proofs.Rule.Every
import TextMate.Proofs.Rule.Object

/-
  This file proves that the findings of a walk account for
  what it loses: the rule that is kept is written as the
  object without the nodes at which something is found.

  A node is lost when something is found at the node itself.
  What is found inside a node that is kept is accounted for by
  the walk over the node, and what is found inside one that is
  lost does not matter.

  Main declarations:
    * `kept_walkValue_eq_none_iff`
    * `kept_walkNested_eq_none_iff`
    * `lostPair`
    * `same_walkRule`
    * `walk_accounts`
    * `hasNode_walk`
-/

namespace TextMate

namespace Import

variable (check : Acceptance)

------------------------------------------------------------
-- Nodes at Fault
------------------------------------------------------------

/- What is found inside nodes is not found around them. -/
theorem foundAt_flatMap_below_nil
    {α : Type}
    (nodes : List α)
    (step : α → Step)
    (findings : α → List Finding) :
    foundAt
        (nodes.flatMap fun node =>
          (findings node).map (Finding.below (step node)))
        [] =
      false := by
  rw [foundAt, List.any_flatMap, List.any_eq_false]
  intro node _
  rw [← foundAt, foundAt_below_nil]
  exact Bool.false_ne_true

/- Distinct keys lead to distinct places. -/
theorem nodup_memberSteps
    {members : Json.Object}
    (hKeys : members.keys.Nodup) :
    (members.map fun member => Step.member member.1).Nodup := by
  have hInjective : Function.Injective Step.member :=
    fun _ _ hEqual => Step.member.inj hEqual
  have hMap := hKeys.map hInjective
  rwa [Json.Object.keys, List.map_map] at hMap

/- The steps to the items of a list are distinct. -/
theorem nodup_itemSteps
    {α : Type}
    (items : List α) :
    (items.zipIdx.map fun item => Step.item item.2).Nodup := by
  have hInjective : Function.Injective Step.item :=
    fun _ _ hEqual => Step.item.inj hEqual
  have hPositions : (items.zipIdx.map Prod.snd).Nodup := by
    rw [List.zipIdx_map_snd]
    exact List.nodup_range'
  have hMap := hPositions.map hInjective
  rwa [List.map_map] at hMap

/- What is found at a member itself or inside it. -/
def ownFindings
    (member : String × Json.Value) : List Finding :=
  match Field.ofKey? member.1 with
  | none => [⟨[], .warning, .unrecognizedField⟩]
  | some field => (walkValue check field member.2).findings

theorem memberFindings_eq_map
    (member : String × Json.Value) :
    memberFindings check member =
      (ownFindings check member).map
        (Finding.below (.member member.1)) := by
  unfold memberFindings ownFindings
  cases Field.ofKey? member.1 <;> rfl

theorem findings_walkRule
    (members : Json.Object) :
    (walkRule check members).findings =
      (members.flatMap fun member =>
          (ownFindings check member).map
            (Finding.below (.member member.1))) ++
        (settled (walkMembers check members).kept).findings := by
  rw [walkRule, Walk.join, findings_walkMembers]
  simp only [← memberFindings_eq_map]

/- A field that lost its pair is found where it stands. -/
theorem foundAt_settled_nil
    (outcomes : Outcomes) :
    foundAt (settled outcomes).findings [] = false := by
  unfold settled
  split
  · rw [foundAt, List.any_map, List.any_eq_false]
    intro field _
    simp [unpairedFinding]
  · rfl

/- A value is lost just if it is itself at fault. -/
theorem kept_walkValue_eq_none_iff
    (field : Field)
    (value : Json.Value) :
    (walkValue check field value).kept = none ↔
      foundAt (walkValue check field value).findings [] =
        true := by
  have hScalar :
      (walkScalar field).kept = none ↔
        foundAt (walkScalar field).findings [] = true := by
    unfold walkScalar
    cases field.kind <;> simp [Walk.fault, foundAt]
  cases value with
  | null | bool _ | number _ => exact hScalar
  | string text =>
      rw [walkValue]
      unfold walkText
      cases field.kind with
      | pattern =>
          simp only
          split <;> simp [Walk.fault, Walk.done, foundAt]
      | label | captures | children =>
          simp [Walk.fault, Walk.done, foundAt]
  | array items =>
      rw [walkValue]
      split
      · simp [Walk.map, findings_walkItems, Walk.below,
          foundAt_flatMap_below_nil]
      · exact hScalar
  | object members =>
      rw [walkValue]
      split
      · simp [Walk.map, findings_walkCaptures, Walk.below,
          foundAt_flatMap_below_nil]
      · exact hScalar

/- A nested rule is lost just if it is itself at fault. -/
theorem kept_walkNested_eq_none_iff
    (value : Json.Value) :
    (walkNested check value).kept = none ↔
      foundAt (walkNested check value).findings [] = true := by
  cases value with
  | null | bool _ | number _ | string _ | array _ =>
      simp [walkNested, Walk.fault, foundAt]
  | object members =>
      rw [walkNested_object]
      simp [Walk.map, findings_walkRule, foundAt_settled_nil,
        foundAt_flatMap_below_nil]

------------------------------------------------------------
-- Fields That Lost Their Pair
------------------------------------------------------------

/- A field is removed with the other half of its pair. -/
def lostPair
    (outcomes : Outcomes)
    (field : Field) : Bool :=
  losesDelimiter outcomes &&
    (assemble .empty outcomes).unpaired.contains field

/- The rule that is settled has the fields that have a pair. -/
theorem get?_kept_settled
    (outcomes : Outcomes)
    (field : Field) :
    (settled outcomes).kept.get? field =
      if lostPair outcomes field then none
      else (assemble .empty outcomes).get? field := by
  unfold settled lostPair
  cases losesDelimiter outcomes with
  | true =>
      simp [Rule.dropUnpaired, Rule.get?_foldl_erase]
  | false => rfl

/- So does the rule that a walk keeps. -/
theorem get?_kept_walkRule_eq
    (members : Json.Object)
    (field : Field) :
    (walkRule check members).kept.get? field =
      if lostPair (walkMembers check members).kept field
      then none
      else
        (assemble .empty
          (walkMembers check members).kept).get? field :=
  get?_kept_settled _ field

/- Each field that lost its pair is found, and no other. -/
theorem foundAt_settled_member
    (outcomes : Outcomes)
    (field : Field)
    (place : Place) :
    foundAt (settled outcomes).findings
        (.member field.key :: place) =
      (place.isEmpty && lostPair outcomes field) := by
  have hPlace :
      ∀ other : Field,
        (unpairedFinding other).place =
            .member field.key :: place ↔
          place = [] ∧ other = field := by
    intro other
    simp only [unpairedFinding, List.cons.injEq,
      Step.member.injEq]
    constructor
    · rintro ⟨hKey, hRest⟩
      exact ⟨hRest.symm, Field.key_injective hKey⟩
    · rintro ⟨rfl, rfl⟩
      exact ⟨rfl, rfl⟩
  unfold settled lostPair
  cases losesDelimiter outcomes with
  | true =>
      rw [Bool.eq_iff_iff]
      simp [foundAt, hPlace, and_comm]
  | false => simp [Walk.done]

/-
  The findings behind a member are its own, and at the member
  also that its field lost its pair.
-/
theorem foundAt_walkRule
    {members : Json.Object}
    (hKeys : members.keys.Nodup)
    {field : Field}
    {value : Json.Value}
    (hMember : (field.key, value) ∈ members)
    (place : Place) :
    foundAt (walkRule check members).findings
        (.member field.key :: place) =
      (foundAt (walkValue check field value).findings place ||
        place.isEmpty &&
          lostPair (walkMembers check members).kept field) := by
  have hOwn :
      ownFindings check (field.key, value) =
        (walkValue check field value).findings := by
    simp only [ownFindings, Field.ofKey?_key]
  have hBehind :=
    foundAt_flatMap_below (ownFindings check)
      (nodup_memberSteps hKeys) hMember place
  rw [findings_walkRule, foundAt_append,
    foundAt_settled_member, hBehind, hOwn]

/- A member that no field is written under is found. -/
theorem foundAt_walkRule_of_unknown
    {members : Json.Object}
    {key : String}
    {value : Json.Value}
    (hMember : (key, value) ∈ members)
    (hUnknown : Field.ofKey? key = none) :
    foundAt (walkRule check members).findings [.member key] =
      true := by
  rw [findings_walkRule, foundAt_append, Bool.or_eq_true]
  refine Or.inl ?_
  rw [foundAt, List.any_flatMap, List.any_eq_true]
  refine ⟨(key, value), hMember, ?_⟩
  simp [ownFindings, hUnknown, Finding.below]

/-
  A field is kept with the value that is kept of its member,
  if nothing is found at the member.
-/
theorem get?_kept_walkRule
    {members : Json.Object}
    (hKeys : members.keys.Nodup)
    (field : Field)
    (kept : FieldValue) :
    (walkRule check members).kept.get? field = some kept ↔
      ∃ value, (field.key, value) ∈ members ∧
        foundAt (walkRule check members).findings
            [.member field.key] =
          false ∧
        (walkValue check field value).kept = some kept := by
  have hFound :
      ∀ value, (field.key, value) ∈ members →
        (walkValue check field value).kept = some kept →
          foundAt (walkRule check members).findings
              [.member field.key] =
            lostPair (walkMembers check members).kept field := by
    intro value hMember hKept
    have hOwn :
        foundAt (walkValue check field value).findings [] =
          false := by
      rw [← Bool.not_eq_true, ← kept_walkValue_eq_none_iff,
        hKept]
      exact Option.some_ne_none kept
    rw [foundAt_walkRule check hKeys hMember, hOwn]
    rfl
  rw [get?_kept_walkRule_eq, Option.ite_none_left_eq_some,
    get?_assemble_walkMembers check hKeys]
  constructor
  · rintro ⟨hPair, value, hMember, hKept⟩
    rw [Bool.not_eq_true] at hPair
    exact
      ⟨value, hMember, (hFound value hMember hKept).trans hPair,
        hKept⟩
  · rintro ⟨value, hMember, hNone, hKept⟩
    rw [hFound value hMember hKept] at hNone
    exact ⟨ne_true_of_eq_false hNone, value, hMember, hKept⟩

/- What is found behind a member that is kept is its own. -/
theorem behind_foundAt_walkRule
    {members : Json.Object}
    (hKeys : members.keys.Nodup)
    {field : Field}
    {value : Json.Value}
    (hMember : (field.key, value) ∈ members)
    (hNone :
      foundAt (walkRule check members).findings
          [.member field.key] =
        false) :
    behind (.member field.key)
        (foundAt (walkRule check members).findings) =
      foundAt (walkValue check field value).findings := by
  funext place
  have hFound :=
    foundAt_walkRule check hKeys hMember
  rw [behind, hFound place]
  cases place with
  | nil =>
      rw [hFound [], Bool.or_eq_false_iff] at hNone
      rw [hNone.1, hNone.2]
      rfl
  | cons step rest => exact Bool.or_false _

------------------------------------------------------------
-- Accounts of Walks
------------------------------------------------------------

/-
  What is written for what a walk keeps is the value without
  the places of the findings.
-/
def Accounts
    {α : Type}
    (write : α → Json.Value)
    (walk : Walk (Option α))
    (value : Json.Value) : Prop :=
  ∀ kept, walk.kept = some kept →
    (write kept).same (without (foundAt walk.findings) value) =
      true

/- A rule is accounted for if the values of its fields are. -/
theorem same_walkRule
    {members : Json.Object}
    (hKeys : members.keys.Nodup)
    (hValues :
      ∀ field value, (field.key, value) ∈ members →
        Accounts FieldValue.toValue
          (walkValue check field value) value) :
    Json.Object.same (walkRule check members).kept.toObject
        (withoutMembers
          (foundAt (walkRule check members).findings)
          members) =
      true := by
  apply Json.Object.same_of_forall (Rule.nodup_keys_toObject _)
    (nodup_keys_withoutMembers _ hKeys)
  · intro member hMember
    rcases (Rule.mem_toObject_iff _ member).mp hMember with
      ⟨field, kept, hField, rfl⟩
    rcases (get?_kept_walkRule check hKeys field kept).mp hField
      with ⟨value, hValue, hNone, hKept⟩
    refine
      ⟨_, mem_withoutMembers_iff.mpr ⟨value, hValue, hNone, rfl⟩,
        ?_⟩
    rw [behind_foundAt_walkRule check hKeys hValue hNone]
    exact hValues field value hValue kept hKept
  · intro _ hKey
    rcases List.mem_map.mp hKey with ⟨⟨key, left⟩, hLeft, rfl⟩
    rcases mem_withoutMembers_iff.mp hLeft with
      ⟨value, hValue, hNone, -⟩
    cases hField : Field.ofKey? key with
    | none =>
        rw [foundAt_walkRule_of_unknown check hValue hField]
          at hNone
        cases hNone
    | some field =>
        rcases Field.ofKey?_eq_some_iff.mp hField with rfl
        cases hKept : (walkValue check field value).kept with
        | none =>
            rw [kept_walkValue_eq_none_iff] at hKept
            rw [foundAt_walkRule check hKeys hValue, hKept]
              at hNone
            cases hNone
        | some kept =>
            have hGet :=
              (get?_kept_walkRule check hKeys field kept).mpr
                ⟨value, hValue, hNone, hKept⟩
            have hWritten :=
              (Rule.mem_toObject_iff _ _).mpr
                ⟨field, kept, hGet, rfl⟩
            exact List.mem_map.mpr ⟨_, hWritten, rfl⟩

/- The rule of a group is kept if that of its member is. -/
theorem mem_kept_walkCaptures_iff
    {members : Json.Object}
    (hCanonical : ∀ member ∈ members, IsCanonicalKey member.1)
    (entry : UInt32 × Rule) :
    entry ∈ (walkCaptures check members).kept ↔
      ∃ value, (toString entry.1.toNat, value) ∈ members ∧
        (walkNested check value).kept = some entry.2 := by
  rw [kept_walkCaptures, List.mem_flatMap]
  constructor
  · rintro ⟨member, hMember, hEntry⟩
    rcases (hCanonical member hMember).groupIndex?_eq with
      ⟨index, hIndex, hKey⟩
    simp only [groupEntry, hIndex, List.mem_map,
      Option.mem_toList] at hEntry
    rcases hEntry with ⟨rule, hRule, rfl⟩
    exact ⟨member.2, hKey ▸ hMember, hRule⟩
  · rintro ⟨value, hMember, hRule⟩
    refine ⟨_, hMember, ?_⟩
    rw [hRule, groupEntry, groupIndex?_toString]
    exact List.mem_singleton.mpr rfl

/- No group has two rules where no key is used twice. -/
theorem nodup_kept_walkCaptures
    {members : Json.Object}
    (hKeys : members.keys.Nodup)
    (hCanonical : ∀ member ∈ members, IsCanonicalKey member.1) :
    ((walkCaptures check members).kept.map Prod.fst).Nodup := by
  rw [Json.Object.keys, List.nodup_iff_pairwise_ne,
    List.pairwise_map] at hKeys
  rw [List.nodup_iff_pairwise_ne, List.pairwise_map,
    kept_walkCaptures, List.pairwise_flatMap]
  constructor
  · intro member _
    unfold groupEntry
    split
    · cases (walkNested check member.2).kept with
      | none => exact List.Pairwise.nil
      | some rule => exact List.pairwise_singleton _ _
    · exact List.Pairwise.nil
  · refine hKeys.imp_of_mem ?_
    intro x y hX hY hDistinct entry hEntry other hOther hEqual
    -- Equal indexes have equal texts, and these are the keys.
    rcases (hCanonical x hX).groupIndex?_eq with
      ⟨index, hIndex, hFirst⟩
    rcases (hCanonical y hY).groupIndex?_eq with
      ⟨index', hIndex', hSecond⟩
    simp only [groupEntry, hIndex, hIndex', List.mem_map]
      at hEntry hOther
    rcases hEntry with ⟨rule, -, rfl⟩
    rcases hOther with ⟨rule', -, rfl⟩
    simp only at hEqual
    rw [hFirst, hSecond, hEqual] at hDistinct
    exact hDistinct rfl

/- What is found behind an entry of captures is its own. -/
theorem foundAt_walkCaptures
    {members : Json.Object}
    (hKeys : members.keys.Nodup)
    {member : String × Json.Value}
    (hMember : member ∈ members)
    (place : Place) :
    foundAt (walkCaptures check members).findings
        (.member member.1 :: place) =
      foundAt (walkNested check member.2).findings place := by
  rw [findings_walkCaptures]
  exact
    foundAt_flatMap_below
      (fun member => (walkNested check member.2).findings)
      (nodup_memberSteps hKeys) hMember place

/- Captures are accounted for if the rules in them are. -/
theorem same_walkCaptures
    {members : Json.Object}
    (hKeys : members.keys.Nodup)
    (hCanonical : ∀ member ∈ members, IsCanonicalKey member.1)
    (hNested :
      ∀ member ∈ members,
        Accounts (fun rule => .object rule.toObject)
          (walkNested check member.2) member.2) :
    (FieldValue.toValue
        (.captures
          (.ofList (walkCaptures check members).kept))).same
      (without (foundAt (walkCaptures check members).findings)
        (.object members)) =
      true := by
  have hMem :
      ∀ entry,
        entry ∈ Captures.ofList
            (walkCaptures check members).kept ↔
          ∃ value, (toString entry.1.toNat, value) ∈ members ∧
            (walkNested check value).kept = some entry.2 := by
    intro entry
    rw [(Captures.ofList_perm
        (nodup_kept_walkCaptures check hKeys hCanonical)).mem_iff]
    exact mem_kept_walkCaptures_iff check hCanonical entry
  have hFound :
      ∀ member ∈ members, ∀ place,
        foundAt (walkCaptures check members).findings
            (.member member.1 :: place) =
          foundAt (walkNested check member.2).findings place :=
    fun _ hMember => foundAt_walkCaptures check hKeys hMember
  rw [FieldValue.toValue, without]
  apply Json.Object.same_of_forall
  · exact Rule.nodup_keys_groupMembers (Captures.ascending_ofList _)
  · exact nodup_keys_withoutMembers _ hKeys
  · intro member hMember
    rcases List.mem_map.mp hMember with ⟨entry, hEntry, rfl⟩
    rcases (hMem entry).mp hEntry with ⟨value, hValue, hKept⟩
    have hNone :
        foundAt (walkNested check value).findings [] = false := by
      rw [← Bool.not_eq_true, ← kept_walkNested_eq_none_iff,
        hKept]
      exact Option.some_ne_none _
    have hBehind :
        behind (.member (toString entry.1.toNat))
            (foundAt (walkCaptures check members).findings) =
          foundAt (walkNested check value).findings := by
      funext place
      exact hFound _ hValue place
    refine
      ⟨_, mem_withoutMembers_iff.mpr
        ⟨value, hValue, (hFound _ hValue []).trans hNone, rfl⟩,
        ?_⟩
    rw [hBehind]
    exact hNested _ hValue entry.2 hKept
  · intro _ hKey
    rcases List.mem_map.mp hKey with ⟨⟨key, left⟩, hLeft, rfl⟩
    rcases mem_withoutMembers_iff.mp hLeft with
      ⟨value, hValue, hNone, -⟩
    rw [hFound _ hValue []] at hNone
    rcases hCanonical _ hValue with ⟨index, rfl⟩
    cases hKept : (walkNested check value).kept with
    | none =>
        rw [kept_walkNested_eq_none_iff] at hKept
        rw [hKept] at hNone
        cases hNone
    | some rule =>
        have hEntry :=
          (hMem (index, rule)).mpr ⟨value, hValue, hKept⟩
        exact
          List.mem_map.mpr
            ⟨_, List.mem_map_of_mem hEntry, rfl⟩

/-
  Lists agree if their entries come from the same items, in
  the same order.
-/
theorem forall₂_filterMap
    {α β γ : Type}
    {agree : β → γ → Prop}
    {first : α → Option β}
    {second : α → Option γ}
    {items : List α}
    (hItems :
      ∀ item ∈ items,
        Option.Rel agree (first item) (second item)) :
    List.Forall₂ agree (items.filterMap first)
      (items.filterMap second) := by
  induction items with
  | nil => exact List.Forall₂.nil
  | cons item rest ih =>
      have hRest :=
        ih fun other hOther =>
          hItems other (List.mem_cons_of_mem _ hOther)
      have hItem := hItems item List.mem_cons_self
      cases hFirst : first item <;> cases hSecond : second item <;>
        rw [hFirst, hSecond] at hItem <;> cases hItem
      · rw [List.filterMap_cons_none hFirst,
          List.filterMap_cons_none hSecond]
        exact hRest
      · rename_i hAgree
        rw [List.filterMap_cons_some hFirst,
          List.filterMap_cons_some hSecond]
        exact hRest.cons hAgree

/- What is found behind an item of a list is its own. -/
theorem foundAt_walkItems
    {items : List Json.Value}
    {item : Json.Value × Nat}
    (hItem : item ∈ items.zipIdx)
    (place : Place) :
    foundAt (walkItems check 0 items).findings
        (.item item.2 :: place) =
      foundAt (walkNested check item.1).findings place := by
  rw [findings_walkItems]
  exact
    foundAt_flatMap_below
      (fun item : Json.Value × Nat =>
        (walkNested check item.1).findings)
      (nodup_itemSteps items) hItem place

/- A list of rules is accounted for if the rules in it are. -/
theorem same_walkItems
    {items : List Json.Value}
    (hNested :
      ∀ item ∈ items,
        Accounts (fun rule => .object rule.toObject)
          (walkNested check item) item) :
    (FieldValue.toValue
        (.children (walkItems check 0 items).kept)).same
      (without (foundAt (walkItems check 0 items).findings)
        (.array items)) =
      true := by
  have hFound :
      ∀ item ∈ items.zipIdx, ∀ place,
        foundAt (walkItems check 0 items).findings
            (.item item.2 :: place) =
          foundAt (walkNested check item.1).findings place :=
    fun _ hItem => foundAt_walkItems check hItem
  have hWritten :
      (walkItems check 0 items).kept.map
          (fun rule => Json.Value.object rule.toObject) =
        items.zipIdx.filterMap fun item =>
          (walkNested check item.1).kept.map fun rule =>
            Json.Value.object rule.toObject := by
    rw [kept_walkItems, List.map_filterMap]
    conv =>
      lhs
      rw [← List.zipIdx_map_fst 0 items, List.filterMap_map]
    rfl
  rw [FieldValue.toValue, without, Json.Value.same, hWritten,
    withoutItems_eq_filterMap]
  apply Json.sameItems_of_forall₂
  apply forall₂_filterMap
  intro item hItem
  have hBehind :
      behind (.item item.2)
          (foundAt (walkItems check 0 items).findings) =
        foundAt (walkNested check item.1).findings := by
    funext place
    exact hFound item hItem place
  rw [itemWithout?, hBehind, hFound item hItem []]
  cases hKept : (walkNested check item.1).kept with
  | none =>
      rw [(kept_walkNested_eq_none_iff check _).mp hKept]
      exact Option.Rel.none
  | some rule =>
      have hNone :
          ¬foundAt (walkNested check item.1).findings [] =
            true := by
        rw [← kept_walkNested_eq_none_iff, hKept]
        exact Option.some_ne_none rule
      rw [if_neg hNone]
      exact Option.Rel.some
        (hNested item.1 (List.fst_mem_of_mem_zipIdx hItem) rule
          hKept)

/- A text that is kept is written as it was. -/
theorem walkText_accounts
    (field : Field)
    (text : String) :
    Accounts FieldValue.toValue (walkText check field text)
      (.string text) := by
  intro kept hKept
  have hValue : kept.toValue = .string text := by
    unfold walkText at hKept
    cases hKind : field.kind with
    | pattern =>
        simp only [hKind] at hKept
        split at hKept
        · cases hKept
        · cases hKept
          exact congrArg Json.Value.string
            (Pattern.text_ofText text)
    | label =>
        simp only [hKind] at hKept
        cases hKept
        rfl
    | captures | children =>
        simp only [hKind] at hKept
        cases hKept
  rw [hValue, without, Json.Value.same]
  exact beq_self_eq_true text

/- A value of the wrong type is not kept. -/
theorem walkScalar_accounts
    (field : Field)
    (value : Json.Value) :
    Accounts FieldValue.toValue (walkScalar field) value := by
  intro kept hKept
  unfold walkScalar at hKept
  cases hKind : field.kind <;> simp only [hKind] at hKept <;>
    cases hKept

/-
  A walk over the value of a field accounts for the value, and
  one over a nested rule for the rule.  The induction is on
  the value: what a walk keeps inside is accounted for.
-/
theorem walk_accounts
    {value : Json.Value}
    (hTidy : value.Tidy) :
    (∀ field, (walkValue check field value).Canonical →
        Accounts FieldValue.toValue
          (walkValue check field value) value) ∧
      ((walkNested check value).Canonical →
        Accounts (fun rule => .object rule.toObject)
          (walkNested check value) value) := by
  induction value using Json.Value.induction with
  | null =>
      exact ⟨fun field _ => walkScalar_accounts field _, nofun⟩
  | bool value =>
      exact ⟨fun field _ => walkScalar_accounts field _, nofun⟩
  | number value =>
      exact ⟨fun field _ => walkScalar_accounts field _, nofun⟩
  | string text =>
      exact ⟨fun field _ => walkText_accounts check field text,
        nofun⟩
  | array items ih =>
      refine ⟨?_, nofun⟩
      intro field hCanonical
      rw [walkValue] at hCanonical ⊢
      split at hCanonical
      · rw [Walk.canonical_map_iff, canonical_walkItems_iff]
          at hCanonical
        intro kept hKept
        cases hKept
        exact same_walkItems check fun item hItem =>
          (ih item hItem (hTidy.items item hItem)).2
            (hCanonical item hItem)
      · exact walkScalar_accounts field _
  | object members ih =>
      constructor
      · intro field hCanonical
        rw [walkValue] at hCanonical ⊢
        split at hCanonical
        · rw [Walk.canonical_map_iff, canonical_walkCaptures_iff]
            at hCanonical
          intro kept hKept
          cases hKept
          exact same_walkCaptures check hTidy.keys
            (fun member hMember =>
              (hCanonical member hMember).1)
            fun member hMember =>
              (ih member hMember (hTidy.members member hMember)).2
                (hCanonical member hMember).2
        · exact walkScalar_accounts field _
      · intro hCanonical kept hKept
        rw [walkNested_object, Walk.canonical_map_iff,
          canonical_walkRule_iff] at hCanonical
        rw [walkNested_object] at hKept ⊢
        cases hKept
        exact same_walkRule check hTidy.keys
          fun field value hMember =>
            (ih _ hMember (hTidy.members _ hMember)).1 field
              (hCanonical _ hMember field
                (Field.ofKey?_key field))

------------------------------------------------------------
-- Nodes of Findings
------------------------------------------------------------

/- Findings are at nodes of a rule, inside of it. -/
theorem hasNode_walkRule
    {members : Json.Object}
    (hKeys : members.keys.Nodup)
    (hValues :
      ∀ field value, (field.key, value) ∈ members →
        ∀ finding ∈ (walkValue check field value).findings,
          HasNode finding.place value) :
    ∀ finding ∈ (walkRule check members).findings,
      finding.place ≠ [] ∧
        HasNode finding.place (.object members) := by
  intro finding hFinding
  rw [findings_walkRule, List.mem_append, List.mem_flatMap]
    at hFinding
  rcases hFinding with ⟨⟨key, value⟩, hMember, hOwn⟩ | hPair
  · rcases List.mem_map.mp hOwn with ⟨inner, hInner, rfl⟩
    refine ⟨List.cons_ne_nil _ _, value, hMember, ?_⟩
    unfold ownFindings at hInner
    cases hField : Field.ofKey? key with
    | none =>
        simp only [hField, List.mem_singleton] at hInner
        rw [hInner]
        trivial
    | some field =>
        simp only [hField] at hInner
        rcases Field.ofKey?_eq_some_iff.mp hField with rfl
        exact hValues field value hMember inner hInner
  · -- A field that lost its pair has been set from a member.
    unfold settled at hPair
    split at hPair
    · rcases List.mem_map.mp hPair with ⟨field, hField, rfl⟩
      have hHas :
          (assemble .empty
            (walkMembers check members).kept).has field =
            true := by
        unfold Rule.unpaired at hField
        split at hField
        · exact (List.mem_filter.mp hField).2
        · split at hField
          · exact (List.mem_filter.mp hField).2
          · cases hField
      rcases Option.isSome_iff_exists.mp hHas with
        ⟨kept, hKept⟩
      rcases (get?_assemble_walkMembers check hKeys field kept).mp
        hKept with ⟨value, hMember, -⟩
      exact ⟨List.cons_ne_nil _ _, value, hMember, trivial⟩
    · cases hPair

/- Findings are at nodes of the value that is walked over. -/
theorem hasNode_walk
    {value : Json.Value}
    (hTidy : value.Tidy) :
    (∀ field,
        ∀ finding ∈ (walkValue check field value).findings,
          HasNode finding.place value) ∧
      ∀ finding ∈ (walkNested check value).findings,
        HasNode finding.place value := by
  have hFault :
      ∀ {α : Type} (kept : α) (kind : DiagnosticKind)
        (value : Json.Value),
        ∀ finding ∈ (Walk.fault kept kind).findings,
          HasNode finding.place value := by
    intro α kept kind value finding hFinding
    rw [List.mem_singleton.mp hFinding]
    trivial
  have hScalar :
      ∀ (field : Field) (value : Json.Value),
        ∀ finding ∈ (walkScalar field).findings,
          HasNode finding.place value := by
    intro field value
    unfold walkScalar
    cases field.kind <;> exact hFault _ _ value
  induction value using Json.Value.induction with
  | null => exact ⟨fun field => hScalar field _, hFault _ _ _⟩
  | bool value =>
      exact ⟨fun field => hScalar field _, hFault _ _ _⟩
  | number value =>
      exact ⟨fun field => hScalar field _, hFault _ _ _⟩
  | string text =>
      refine ⟨?_, hFault _ _ _⟩
      intro field
      rw [walkValue]
      unfold walkText
      cases field.kind with
      | pattern =>
          simp only
          split
          · exact hFault _ _ _
          · nofun
      | label => nofun
      | captures | children => exact hFault _ _ _
  | array items ih =>
      refine ⟨?_, hFault _ _ _⟩
      intro field
      rw [walkValue]
      split
      · intro finding hFinding
        simp only [Walk.map, findings_walkItems,
          List.mem_flatMap] at hFinding
        rcases hFinding with ⟨⟨item, position⟩, hItem, hBelow⟩
        rcases List.mem_map.mp hBelow with ⟨inner, hInner, rfl⟩
        have hMember := List.fst_mem_of_mem_zipIdx hItem
        exact
          ⟨item, hItem,
            (ih item hMember (hTidy.items item hMember)).2 inner
              hInner⟩
      · exact hScalar field _
  | object members ih =>
      constructor
      · intro field
        rw [walkValue]
        split
        · intro finding hFinding
          simp only [Walk.map, findings_walkCaptures,
            List.mem_flatMap] at hFinding
          rcases hFinding with ⟨⟨key, value⟩, hMember, hBelow⟩
          rcases List.mem_map.mp hBelow with
            ⟨inner, hInner, rfl⟩
          exact
            ⟨value, hMember,
              (ih _ hMember (hTidy.members _ hMember)).2 inner
                hInner⟩
        · exact hScalar field _
      · intro finding hFinding
        rw [walkNested_object] at hFinding
        refine
          (hasNode_walkRule check hTidy.keys ?_ finding
            hFinding).2
        intro field value hMember
        exact
          (ih _ hMember (hTidy.members _ hMember)).1 field

end Import

end TextMate
