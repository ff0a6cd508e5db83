import TextMate.Proofs.Import.Fields
import TextMate.Proofs.Import.Lack

/-
  This file proves that the import of a rule finds an error just
  if a part is missing from what it keeps, apart from two kinds
  of parts.

  A member whose key names no field is missing without an error.
  So is a captures entry whose group is named again by a later
  one, unless there is an error inside of the entry: it is
  imported before it is replaced.

  One level of a rule has an error just if a field is missing
  from the rule or a part of a field has one.  From this the
  whole is by induction, along the rules that are kept.

  Main declarations:
    * `Import.Walk.HasErrors`
    * `Import.hasErrors_walkRule_iff`
    * `Import.Stands.kept_eq`
    * `Import.Loses`
    * `Import.hasErrors_iff_exists_loses`
-/

namespace TextMate

namespace Import

------------------------------------------------------------
-- Errors of Walks
------------------------------------------------------------

/- A walk finds an error. -/
def Walk.HasErrors
    {α : Type}
    (walk : Walk α) : Prop :=
  ∃ finding ∈ walk.findings, finding.severity = .error

variable (check : Acceptance)

/- What is found behind steps has an error just if one has. -/
theorem exists_error_flatMap_below_iff
    {α : Type}
    (items : List α)
    (found : α → List Finding)
    (step : α → Step) :
    (∃ finding ∈
        items.flatMap fun item =>
          (found item).map (Finding.below (step item)),
        finding.severity = .error) ↔
      ∃ item ∈ items, ∃ finding ∈ found item,
        finding.severity = .error := by
  constructor
  · rintro ⟨finding, hFinding, hError⟩
    rcases List.mem_flatMap.mp hFinding with
      ⟨item, hItem, hFound⟩
    rcases List.mem_map.mp hFound with ⟨inner, hInner, rfl⟩
    exact ⟨item, hItem, inner, hInner, hError⟩
  · rintro ⟨item, hItem, inner, hInner, hError⟩
    exact
      ⟨inner.below (step item),
        List.mem_flatMap.mpr
          ⟨item, hItem, List.mem_map_of_mem hInner⟩,
        hError⟩

/- A value that is at fault itself is not kept. -/
theorem hasErrors_walkScalar
    (field : Field) :
    (walkScalar field).HasErrors ∧
      (walkScalar field).kept = none := by
  unfold walkScalar
  cases field.kind <;>
    exact ⟨⟨_, List.mem_singleton_self _, rfl⟩, rfl⟩

/- The text of a field has an error just if it is not kept. -/
theorem hasErrors_walkText_iff
    (field : Field)
    (text : String) :
    (walkText check field text).HasErrors ↔
      (walkText check field text).kept = none := by
  unfold walkText
  cases field.kind with
  | pattern =>
      simp only
      split <;> simp [Walk.HasErrors, Walk.fault, Walk.done]
  | label | captures | children =>
      simp [Walk.HasErrors, Walk.fault, Walk.done]

/-
  The value of a field has an error just if it is not kept or a
  part of it has one.
-/
theorem hasErrors_walkValue_iff
    (field : Field)
    (value : Json.Value) :
    (walkValue check field value).HasErrors ↔
      (walkValue check field value).kept = none ∨
        ∃ step part, HoldsPart field value step part ∧
          (walkNested check part).HasErrors := by
  have hScalar := hasErrors_walkScalar field
  cases value with
  | null | bool _ | number _ =>
      rw [walkValue]
      exact iff_of_true hScalar.1 (Or.inl hScalar.2)
  | string text =>
      rw [walkValue, hasErrors_walkText_iff]
      refine (or_iff_left ?_).symm
      rintro ⟨_, _, hHolds, -⟩
      cases hHolds
  | array items =>
      rw [walkValue]
      split
      · rename_i hKind
        rw [Walk.HasErrors, Walk.map, findings_walkItems]
        refine (exists_error_flatMap_below_iff _ _ _).trans ?_
        constructor
        · rintro ⟨item, hItem, hError⟩
          exact Or.inr ⟨_, _, .item hKind hItem, hError⟩
        · rintro (hNone | ⟨_, _, hHolds, hError⟩)
          · cases hNone
          · cases hHolds with
            | item _ hItem => exact ⟨_, hItem, hError⟩
      · exact iff_of_true hScalar.1 (Or.inl hScalar.2)
  | object entries =>
      rw [walkValue]
      split
      · rename_i hKind
        rw [Walk.HasErrors, Walk.map, findings_walkCaptures]
        refine (exists_error_flatMap_below_iff _ _ _).trans ?_
        constructor
        · rintro ⟨entry, hEntry, hError⟩
          exact Or.inr ⟨_, _, .group hKind hEntry, hError⟩
        · rintro (hNone | ⟨_, _, hHolds, hError⟩)
          · cases hNone
          · cases hHolds with
            | group _ hEntry => exact ⟨_, hEntry, hError⟩
      · exact iff_of_true hScalar.1 (Or.inl hScalar.2)

/- A part has an error unless it is a rule that has none. -/
theorem hasErrors_walkNested_iff
    (part : Json.Value) :
    (walkNested check part).HasErrors ↔
      ∀ members, part = .object members →
        (walkRule check members).HasErrors := by
  cases part with
  | null | bool _ | number _ | string _ | array _ =>
      refine iff_of_true ⟨_, List.mem_singleton_self _, rfl⟩ ?_
      intro members hPart
      cases hPart
  | object members =>
      rw [walkNested_object]
      constructor
      · rintro hError _ ⟨⟩
        exact hError
      · exact fun hRule => hRule members rfl

/-
  A field gets what is kept of the value of its member, if it
  did not lose its pair.
-/
theorem get?_kept_walkRule_of_mem
    {members : Json.Object}
    (hKeys : members.keys.Nodup)
    {field : Field}
    {value : Json.Value}
    (hMember : (field.key, value) ∈ members) :
    (walkRule check members).kept.get? field =
      if lostPair (walkMembers check members).kept field
      then none
      else (walkValue check field value).kept := by
  have hSet :
      (assemble .empty (walkMembers check members).kept).get?
          field =
        (walkValue check field value).kept := by
    ext kept
    rw [get?_assemble_walkMembers check hKeys]
    constructor
    · rintro ⟨other, hOther, hKept⟩
      cases eq_of_mem_of_key_eq hKeys hMember hOther rfl
      exact hKept
    · exact fun hKept => ⟨value, hMember, hKept⟩
  rw [get?_kept_walkRule_eq, hSet]

/- A field that lost its pair has a member. -/
theorem exists_member_of_lostPair
    {members : Json.Object}
    (hKeys : members.keys.Nodup)
    {field : Field}
    (hLost : lostPair (walkMembers check members).kept field) :
    ∃ value, (field.key, value) ∈ members := by
  rw [lostPair, Bool.and_eq_true, List.contains_iff_mem,
    Rule.mem_unpaired_iff, Rule.has,
    Option.isSome_iff_exists] at hLost
  rcases hLost.2.1 with ⟨kept, hKept⟩
  rcases (get?_assemble_walkMembers check hKeys _ _).mp hKept
    with ⟨value, hMember, -⟩
  exact ⟨value, hMember⟩

/- What is settled has an error if a field lost its pair. -/
theorem hasErrors_settled_iff
    (outcomes : Outcomes) :
    (settled outcomes).HasErrors ↔
      ∃ field, lostPair outcomes field := by
  unfold settled lostPair
  cases losesDelimiter outcomes with
  | true => simp [Walk.HasErrors, unpairedFinding]
  | false => simp [Walk.HasErrors, Walk.done]

/- A member has an error just if it is a field with one. -/
theorem exists_error_ownFindings_iff
    (member : String × Json.Value) :
    (∃ finding ∈ ownFindings check member,
        finding.severity = .error) ↔
      ∃ field, Field.key field = member.1 ∧
        (walkValue check field member.2).HasErrors := by
  unfold ownFindings
  cases hField : Field.ofKey? member.1 with
  | none =>
      constructor
      · rintro ⟨finding, hFinding, hError⟩
        cases List.mem_singleton.mp hFinding
        cases hError
      · rintro ⟨field, hKey, -⟩
        rw [← hKey, Field.ofKey?_key] at hField
        cases hField
  | some field =>
      have hKey := Field.ofKey?_eq_some_iff.mp hField
      constructor
      · exact fun hError => ⟨field, hKey.symm, hError⟩
      · rintro ⟨other, hOther, hError⟩
        cases Field.key_injective (hOther.trans hKey)
        exact hError

/- A field with a member is lost with its pair or its value. -/
theorem not_has_kept_walkRule_iff
    {members : Json.Object}
    (hKeys : members.keys.Nodup)
    {field : Field}
    {value : Json.Value}
    (hMember : (field.key, value) ∈ members) :
    ¬(walkRule check members).kept.has field ↔
      lostPair (walkMembers check members).kept field ∨
        (walkValue check field value).kept = none := by
  rw [Rule.has, get?_kept_walkRule_of_mem check hKeys hMember]
  split <;> simp_all

/- An error of a rule is in a value or is about a pair. -/
theorem hasErrors_walkRule_iff_value_or_pair
    (members : Json.Object) :
    (walkRule check members).HasErrors ↔
      (∃ field value, (Field.key field, value) ∈ members ∧
          (walkValue check field value).HasErrors) ∨
        ∃ field,
          lostPair (walkMembers check members).kept field := by
  rw [Walk.HasErrors, findings_walkRule,
    ← hasErrors_settled_iff]
  simp only [List.mem_append, or_and_right, exists_or]
  refine or_congr_left ?_
  rw [exists_error_flatMap_below_iff]
  simp only [exists_error_ownFindings_iff]
  constructor
  · rintro ⟨⟨_, value⟩, hMember, field, rfl, hError⟩
    exact ⟨field, value, hMember, hError⟩
  · rintro ⟨field, value, hMember, hError⟩
    exact ⟨_, hMember, field, rfl, hError⟩

/-
  A rule has an error just if it does not have one of its fields
  or a part of a field has one.
-/
theorem hasErrors_walkRule_iff
    {members : Json.Object}
    (hKeys : members.keys.Nodup) :
    (walkRule check members).HasErrors ↔
      ∃ field value, (Field.key field, value) ∈ members ∧
        (¬(walkRule check members).kept.has field ∨
          ∃ step part, HoldsPart field value step part ∧
            (walkNested check part).HasErrors) := by
  rw [hasErrors_walkRule_iff_value_or_pair]
  constructor
  · rintro (⟨field, value, hMember, hError⟩ | ⟨field, hLost⟩)
    · refine ⟨field, value, hMember, ?_⟩
      rw [hasErrors_walkValue_iff] at hError
      rw [not_has_kept_walkRule_iff check hKeys hMember]
      exact hError.imp_left Or.inr
    · rcases exists_member_of_lostPair check hKeys hLost with
        ⟨value, hMember⟩
      refine ⟨field, value, hMember, Or.inl ?_⟩
      rw [not_has_kept_walkRule_iff check hKeys hMember]
      exact Or.inl hLost
  · rintro ⟨field, value, hMember, hLost⟩
    rw [not_has_kept_walkRule_iff check hKeys hMember] at hLost
    rcases hLost with (hPair | hNone) | hPart
    · exact Or.inr ⟨field, hPair⟩
    · refine Or.inl ⟨field, value, hMember, ?_⟩
      rw [hasErrors_walkValue_iff]
      exact Or.inl hNone
    · refine Or.inl ⟨field, value, hMember, ?_⟩
      rw [hasErrors_walkValue_iff]
      exact Or.inr hPart

------------------------------------------------------------
-- Rules That Stand
------------------------------------------------------------

/- The steps to the rules in what is kept are distinct. -/
theorem nodup_steps_of_walkValue
    {field : Field}
    {value : Json.Value}
    {kept : FieldValue}
    (hKept : (walkValue check field value).kept = some kept) :
    (kept.nested.map Prod.fst).Nodup := by
  cases kept with
  | pattern _ | label _ => exact List.nodup_nil
  | captures captures =>
      rcases exists_object_of_walkValue check hKept with
        ⟨-, entries, -, rfl⟩
      have hAscending :=
        Captures.ascending_ofList
          (walkCaptures check entries).kept
      rw [FieldValue.nested, List.map_map,
        List.nodup_iff_pairwise_ne, List.pairwise_map]
      refine hAscending.imp ?_
      intro x y hLess hStep
      have hIndex :=
        toString_index_injective (Step.member.inj hStep)
      exact UInt32.ne_of_lt hLess hIndex
  | children rules =>
      rw [FieldValue.nested, List.map_map]
      exact nodup_itemSteps rules

/- A rule that a kept one has is what is kept of its object. -/
theorem Makes.kept_eq
    {members inner : Json.Object}
    {own : Place}
    {made : Rule}
    (hMakes :
      Makes members (walkRule check members).kept own inner
        made)
    (hKeys : members.keys.Nodup) :
    (walkRule check inner).kept = made := by
  cases hMakes with
  | intro hMember hField hKeeps hNested =>
      rw [get?_kept_walkRule_of_mem check hKeys hMember,
        Option.ite_none_left_eq_some] at hField
      have hOwn :=
        (mem_nested_walkValue_iff check hField.2).mpr
          ⟨_, inner, hKeeps, rfl⟩
      have hSame :=
        eq_of_mem_of_key_eq
          (nodup_steps_of_walkValue check hField.2) hOwn hNested
          rfl
      exact congrArg Prod.snd hSame

/- A rule that is kept stands for its object. -/
theorem makes_of_keepsRule
    {members inner : Json.Object}
    (hKeys : members.keys.Nodup)
    {field : Field}
    {value : Json.Value}
    {step shown : Step}
    (hMember : (field.key, value) ∈ members)
    (hField : (walkRule check members).kept.has field)
    (hKeeps : KeepsRule field value step shown inner) :
    Makes members (walkRule check members).kept
      [.member field.key, step] inner
      (walkRule check inner).kept := by
  rcases Option.isSome_iff_exists.mp hField with ⟨kept, hKept⟩
  have hValue := hKept
  rw [get?_kept_walkRule_of_mem check hKeys hMember,
    Option.ite_none_left_eq_some] at hValue
  exact
    .intro hMember hKept hKeeps
      ((mem_nested_walkValue_iff check hValue.2).mpr
        ⟨_, inner, hKeeps, rfl⟩)

/- A rule that stands for an object is what is kept of it. -/
theorem Stands.kept_eq
    {members object : Json.Object}
    {part : Rule}
    {place : Place}
    (hStands :
      Stands members (walkRule check members).kept place object
        part)
    (hTidy : (Json.Value.object members).Tidy) :
    (walkRule check object).kept = part := by
  generalize hRule : (walkRule check members).kept = rule
    at hStands
  induction hStands with
  | self => exact hRule
  | nested hMakes hInner ih =>
      rw [← hRule] at hMakes
      have hMade := hMakes.kept_eq check hTidy.keys
      have hReaches := (Stands.nested hMakes .self).reaches
      exact ih (hReaches.tidy hTidy) hMade

/- The keys of captures are indexes where no error is met. -/
theorem isSome_groupIndex?_of_holdsPart
    {members : Json.Object}
    {path : String}
    (hErrors : (walkRule check members).errors path = [])
    {field : Field}
    {value part : Json.Value}
    {key : String}
    (hMember : (field.key, value) ∈ members)
    (hHolds : HoldsPart field value (.member key) part) :
    (groupIndex? key).isSome := by
  rw [Walk.errors_eq_nil_iff] at hErrors
  have hMet :
      ⟨[], key⟩ ∈ (walkValue check field value).keys := by
    cases hHolds with
    | group hKind hEntry =>
        simp only [walkValue, hKind, Walk.map]
        rw [keys_walkCaptures, List.mem_flatMap]
        exact ⟨_, hEntry, List.mem_cons_self⟩
  have hIndex :=
    hErrors _ (mem_keys_walkRule check hMember hMet)
  exact hIndex

------------------------------------------------------------
-- Errors of Rules
------------------------------------------------------------

/-
  A part is missing and an error says so: it is not a member
  that names no field, nor an entry that is replaced and has no
  error.
-/
def Loses
    (members : Json.Object)
    (rule : Rule)
    (own : Place) : Prop :=
  Lacks members rule own ∧ ¬IsUnnamed own ∧
    ∀ object, Replaced members own object →
      (walkRule check object).HasErrors

/- A rule that loses a part has an error. -/
theorem hasErrors_of_loses
    {members : Json.Object}
    (hTidy : (Json.Value.object members).Tidy)
    {path : String}
    (hErrors : (walkRule check members).errors path = [])
    {own : Place}
    (hLoses :
      Loses check members (walkRule check members).kept own) :
    (walkRule check members).HasErrors := by
  rcases hLoses with ⟨⟨hPart, hNot⟩, hNamed, hReplaced⟩
  rw [hasErrors_walkRule_iff check hTidy.keys]
  cases hPart with
  | @member key value hMember =>
      cases hField : Field.ofKey? key with
      | none => exact absurd ⟨key, rfl, hField⟩ hNamed
      | some field =>
          cases Field.ofKey?_eq_some_iff.mp hField
          rw [showsPart_member_iff] at hNot
          exact ⟨field, value, hMember, Or.inl hNot⟩
  | @inner field value part step hMember hHolds =>
      refine ⟨field, value, hMember, ?_⟩
      rw [or_iff_not_imp_left, not_not]
      intro hField
      refine ⟨step, part, hHolds, ?_⟩
      rw [hasErrors_walkNested_iff]
      rintro object rfl
      have hRule := holdsRule_iff.mpr hHolds
      have hIndex :
          ∀ key, step = .member key →
            (groupIndex? key).isSome := by
        rintro key rfl
        exact
          isSome_groupIndex?_of_holdsPart check hErrors hMember
            hHolds
      rcases hRule.keepsRule_or_replacesRule hIndex with
        ⟨shown, hKeeps⟩ | hReplaces
      · have hMakes :=
          makes_of_keepsRule check hTidy.keys hMember hField
            hKeeps
        exact absurd (.rule hMakes) hNot
      · exact hReplaced object (.intro hMember hReplaces)

/- A rule without one of its fields loses it. -/
theorem loses_of_not_has
    {members : Json.Object}
    {rule : Rule}
    {field : Field}
    {value : Json.Value}
    (hMember : (field.key, value) ∈ members)
    (hNot : ¬rule.has field) :
    Loses check members rule [.member field.key] := by
  refine ⟨⟨.member hMember, ?_⟩, ?_, ?_⟩
  · rw [showsPart_member_iff]
    exact hNot
  · rintro ⟨key, hOwn, hKey⟩
    rw [← Step.member.inj (List.cons.inj hOwn).1,
      Field.ofKey?_key] at hKey
    cases hKey
  · intro object hReplaced
    generalize hOwn : [Step.member field.key] = own
      at hReplaced
    cases hReplaced with
    | intro => cases (List.cons.inj hOwn).2

/- A rule loses a part with an error that has no rule for it. -/
theorem loses_of_hasErrors
    {members : Json.Object}
    (hTidy : (Json.Value.object members).Tidy)
    {rule : Rule}
    {field : Field}
    {value part : Json.Value}
    {step : Step}
    (hMember : (field.key, value) ∈ members)
    (hHolds : HoldsPart field value step part)
    (hError : (walkNested check part).HasErrors)
    (hNot : ∀ shown object,
      ¬KeepsRule field value step shown object) :
    Loses check members rule [.member field.key, step] := by
  refine ⟨⟨.inner hMember hHolds, ?_⟩, ?_, ?_⟩
  · rw [showsPart_inner_iff hTidy.keys hMember]
    rintro ⟨_, shown, object, _, -, hKeeps, -⟩
    exact hNot shown object hKeeps
  · rintro ⟨key, hOwn, -⟩
    cases (List.cons.inj hOwn).2
  · intro object hReplaced
    have hRule :=
      (hReplaced.replacesRule hTidy.keys hMember).holdsRule
    have hPart :=
      hHolds.unique (hTidy.members _ hMember)
        (holdsRule_iff.mp hRule)
    exact
      (hasErrors_walkNested_iff check part).mp hError _ hPart

/-
  An error of a rule is a part that a rule in it loses.  The
  induction is on the rule: an error in a part that is kept is
  one of the rule for the part.
-/
theorem exists_loses_of_hasErrors
    {members : Json.Object}
    (hTidy : (Json.Value.object members).Tidy)
    {path : String}
    (hErrors : (walkRule check members).errors path = [])
    (hError : (walkRule check members).HasErrors) :
    ∃ place object part own,
      Stands members (walkRule check members).kept place
          object part ∧
        Loses check object part own := by
  induction members using objectInduction with
  | step members ih =>
      rcases (hasErrors_walkRule_iff check hTidy.keys).mp hError
        with ⟨field, value, hMember, hLost⟩
      by_cases hNot :
          ¬(walkRule check members).kept.has field
      · exact
          ⟨[], members, _, _, .self,
            loses_of_not_has check hMember hNot⟩
      rcases hLost.resolve_left hNot with
        ⟨step, part, hHolds, hInner⟩
      by_cases hKept :
          ∃ shown object,
            KeepsRule field value step shown object
      · rcases hKept with ⟨shown, object, hKeeps⟩
        have hRule := hKeeps.holdsRule
        have hValue := hTidy.members _ hMember
        cases hHolds.unique hValue (holdsRule_iff.mp hRule)
        have hReaches := Reaches.nested hMember hRule .self
        rcases
          ih field value step object hMember hRule
            (hRule.tidy hValue)
            (errors_of_reaches check hReaches hErrors path)
            ((hasErrors_walkNested_iff check _).mp hInner object
              rfl) with
          ⟨place, inner, rest, own, hStands, hLoses⟩
        have hMakes :=
          makes_of_keepsRule check hTidy.keys hMember
            (not_not.mp hNot) hKeeps
        exact
          ⟨_, inner, rest, own, .nested hMakes hStands, hLoses⟩
      · rw [not_exists] at hKept
        have hLoses :
            Loses check members (walkRule check members).kept
              [.member field.key, step] :=
          loses_of_hasErrors check hTidy hMember hHolds hInner
            fun shown => not_exists.mp (hKept shown)
        exact ⟨[], members, _, _, .self, hLoses⟩

/-
  The import of a rule finds an error just if a rule in what it
  keeps loses a part.
-/
theorem hasErrors_iff_exists_loses
    {members : Json.Object}
    (hTidy : (Json.Value.object members).Tidy)
    {path : String}
    (hErrors : (walkRule check members).errors path = []) :
    (walkRule check members).HasErrors ↔
      ∃ place object part own,
        Stands members (walkRule check members).kept place
            object part ∧
          Loses check object part own := by
  constructor
  · exact exists_loses_of_hasErrors check hTidy hErrors
  · rintro ⟨place, object, part, own, hStands, hLoses⟩
    have hReaches := hStands.reaches
    rw [← hStands.kept_eq check hTidy] at hLoses
    rcases
      hasErrors_of_loses check (hReaches.tidy hTidy)
        (errors_of_reaches check hReaches hErrors path) hLoses
      with ⟨finding, hFinding, hError⟩
    exact
      ⟨_, mem_findings_of_reaches check hReaches hFinding,
        hError⟩

/- The diagnostics of findings have an error if these do. -/
theorem hasErrors_map_iff
    {α : Type}
    {found : List α}
    {finding : α → Finding}
    {diagnostic : α → Diagnostic}
    (hSeverity :
      ∀ item,
        (diagnostic item).severity = (finding item).severity) :
    hasErrors (found.map diagnostic) = true ↔
      ∃ item ∈ found, (finding item).severity = .error := by
  simp [hasErrors, hSeverity]

/- An import of a rule has errors just if its walk does. -/
theorem hasErrors_importRule_iff
    {members : Json.Object}
    {path : String}
    (hErrors : (walkRule check members).errors path = []) :
    hasErrors
          ((importRule check path members).start
            .empty).2.diagnostics =
        true ↔
      (walkRule check members).HasErrors := by
  rw [((importRule_follows check path members).of_errors_eq_nil
    hErrors .empty).2]
  exact hasErrors_map_iff fun _ => rfl

end Import

end TextMate
