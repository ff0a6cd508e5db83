import TextMate.Proofs.Document.Within
import TextMate.Proofs.Import.DocumentAccount
import TextMate.Proofs.Import.RoundTrip

/-
  This file proves that what an import keeps lasts: it is what
  a second import keeps as well, and it is written within the
  limit on nesting that the document was within.

  Rules and the values of their fields are nested in each
  other, so both are treated in one induction on the JSON value
  that is walked over.

  Main declarations:
    * `Acceptance.Lasting`
    * `lasts_of_walk`
    * `lasts_of_walkRule`
    * `Document.lasting_kept`
    * `Document.within_toDocument_kept`
-/

namespace TextMate

namespace Import

open Json.Number (Any IsWord)

/- The value of a field is what a second import keeps of it. -/
structure Acceptance.Lasting
    (check : Acceptance)
    (field : Field)
    (value : FieldValue) : Prop where
  keyed : value.Keyed
  ofText : value.OfText
  accepted : Acceptance.Accepts check field value

variable (check : Acceptance)

------------------------------------------------------------
-- Lasting Rules
------------------------------------------------------------

/- The rule lasts, and is written within the depth. -/
structure RuleLasts
    (depth : Nat)
    (rule : Rule) : Prop where
  every : rule.Every (Acceptance.Lasting check)
  within :
    (Json.Value.object rule.toObject).Within IsWord depth

/- The value of a field lasts, and is written so. -/
structure ValueLasts
    (depth : Nat)
    (field : Field)
    (value : FieldValue) : Prop where
  own : Acceptance.Lasting check field value
  nested :
    ∀ inner ∈ value.rules,
      inner.Every (Acceptance.Lasting check)
  within : value.toValue.Within IsWord depth

/- A rule lasts if the values of its fields do. -/
theorem ruleLasts_of_values
    {depth : Nat}
    (hDepth : 1 < depth)
    {rule : Rule}
    (hValues :
      ∀ field value, rule.get? field = some value →
        ValueLasts check (depth - 1) field value) :
    RuleLasts check depth rule where
  every :=
    .intro (fun field value hValue =>
        (hValues field value hValue).own)
      fun field value hValue =>
        (hValues field value hValue).nested
  within := by
    refine .object hDepth rule.nodup_keys_toObject ?_
    intro member hMember
    rcases (rule.mem_toObject_iff member).mp hMember with
      ⟨field, value, hValue, rfl⟩
    exact (hValues field value hValue).within

/- A text that is kept lasts. -/
theorem valueLasts_of_walkText
    (depth : Nat)
    {field : Field}
    {text : String}
    {kept : FieldValue}
    (hKept : (walkText check field text).kept = some kept) :
    ValueLasts check depth field kept := by
  unfold walkText at hKept
  cases hKind : field.kind with
  | pattern =>
      simp only [hKind] at hKept
      split at hKept
      · cases hKept
      · next hPassed =>
          cases hKept
          have hText :
              (PatternValue.compiled (.ofText text)).toText =
                text :=
            Pattern.text_ofText text
          have hAccepts :
              Acceptance.Accepts check field
                (.pattern (.compiled (.ofText text))) := by
            rw [Acceptance.Accepts, hText]
            cases hCheck : check text with
            | none => exact .inl rfl
            | some reason =>
                cases hJudged :
                    isJudged field (Pattern.ofText text) with
                | true => exact (hPassed _ hJudged hCheck).elim
                | false =>
                    refine .inr ?_
                    simpa [isJudged, or_iff_not_imp_left] using
                      hJudged
          exact
            { own := ⟨trivial, ⟨text, rfl⟩, hAccepts⟩
              nested := fun _ hNone =>
                absurd hNone List.not_mem_nil
              within := .string _ }
  | label =>
      simp only [hKind] at hKept
      cases hKept
      exact
        { own := ⟨trivial, trivial, trivial⟩
          nested := fun _ hNone =>
            absurd hNone List.not_mem_nil
          within := .string _ }
  | captures | children =>
      simp only [hKind] at hKept
      cases hKept

/- Captures that are kept last if the nested rules do. -/
theorem valueLasts_of_walkCaptures
    {depth : Nat}
    (hDepth : 1 < depth)
    (field : Field)
    {members : Json.Object}
    (hRules :
      ∀ member ∈ members, ∀ rule,
        (walkNested check member.2).kept = some rule →
          RuleLasts check (depth - 1) rule) :
    ValueLasts check depth field
      (.captures (.ofList (walkCaptures check members).kept)) := by
  have hEntries :
      ∀ entry ∈ Captures.ofList (walkCaptures check members).kept,
        RuleLasts check (depth - 1) entry.2 := by
    intro entry hEntry
    have hKept := Captures.mem_of_mem_ofList hEntry
    rw [kept_walkCaptures, List.mem_flatMap] at hKept
    rcases hKept with ⟨member, hMember, hKept⟩
    rw [groupEntry] at hKept
    split at hKept
    · rcases List.mem_map.mp hKept with ⟨rule, hRule, rfl⟩
      exact
        hRules member hMember rule (Option.mem_toList.mp hRule)
    · exact absurd hKept List.not_mem_nil
  have hAscending :=
    Captures.ascending_ofList (walkCaptures check members).kept
  exact
    { own := ⟨hAscending, trivial, trivial⟩
      nested := by
        intro inner hInner
        rcases List.mem_map.mp hInner with ⟨entry, hEntry, rfl⟩
        exact (hEntries entry hEntry).every
      within := by
        refine
          .object hDepth
            (Rule.nodup_keys_groupMembers hAscending) ?_
        rw [List.forall_mem_map]
        exact fun entry hEntry => (hEntries entry hEntry).within }

/- Rules in a list that are kept last if the items do. -/
theorem valueLasts_of_walkItems
    {depth : Nat}
    (hDepth : 1 < depth)
    (field : Field)
    {items : List Json.Value}
    (hRules :
      ∀ item ∈ items, ∀ rule,
        (walkNested check item).kept = some rule →
          RuleLasts check (depth - 1) rule) :
    ValueLasts check depth field
      (.children (walkItems check 0 items).kept) := by
  have hKept :
      ∀ rule ∈ (walkItems check 0 items).kept,
        RuleLasts check (depth - 1) rule := by
    intro rule hRule
    rw [kept_walkItems, List.mem_filterMap] at hRule
    rcases hRule with ⟨item, hItem, hRule⟩
    exact hRules item hItem rule hRule
  exact
    { own := ⟨trivial, trivial, trivial⟩
      nested := fun inner hInner => (hKept inner hInner).every
      within := by
        refine .array hDepth ?_
        rw [List.forall_mem_map]
        exact fun rule hRule => (hKept rule hRule).within }

/- A rule that is kept lasts if the values of its members do. -/
theorem ruleLasts_of_walkRule
    {depth : Nat}
    (hDepth : 1 < depth)
    {members : Json.Object}
    (hKeys : members.keys.Nodup)
    (hValues :
      ∀ member ∈ members, ∀ field kept,
        (walkValue check field member.2).kept = some kept →
          ValueLasts check (depth - 1) field kept) :
    RuleLasts check depth (walkRule check members).kept := by
  apply ruleLasts_of_values check hDepth
  intro field kept hField
  rcases (get?_kept_walkRule check hKeys field kept).mp hField
    with ⟨value, hMember, -, hKept⟩
  exact hValues _ hMember field kept hKept

/-
  What is kept of a JSON value lasts, both where the value is a
  rule and where it is the value of a field.
-/
theorem lasts_of_walk
    {depth : Nat}
    {value : Json.Value}
    (hWithin : value.Within Any depth) :
    (∀ rule, (walkNested check value).kept = some rule →
        RuleLasts check depth rule) ∧
      ∀ field kept,
        (walkValue check field value).kept = some kept →
          ValueLasts check depth field kept := by
  have hScalar :
      ∀ field, (walkScalar field).kept = none := by
    intro field
    unfold walkScalar
    cases field.kind <;> rfl
  induction value using Json.Value.induction
    generalizing depth with
  | null | bool _ | number _ =>
      refine ⟨nofun, fun field kept hKept => ?_⟩
      rw [walkValue, hScalar] at hKept
      cases hKept
  | string text =>
      refine ⟨nofun, fun field kept hKept => ?_⟩
      exact valueLasts_of_walkText check depth hKept
  | array items ih =>
      rcases Json.Value.Within.array_iff.mp hWithin with
        ⟨hDepth, hItems⟩
      refine ⟨nofun, fun field kept hKept => ?_⟩
      rw [walkValue] at hKept
      split at hKept
      · cases hKept
        exact
          valueLasts_of_walkItems check hDepth field
            fun item hItem => (ih item hItem (hItems item hItem)).1
      · rw [hScalar] at hKept
        cases hKept
  | object members ih =>
      rcases Json.Value.Within.object_iff.mp hWithin with
        ⟨hDepth, hKeys, hMembers⟩
      have hInner :=
        fun member hMember =>
          ih member hMember (hMembers member hMember)
      constructor
      · intro rule hRule
        rw [walkNested_object] at hRule
        cases hRule
        exact
          ruleLasts_of_walkRule check hDepth hKeys
            fun member hMember => (hInner member hMember).2
      · intro field kept hKept
        rw [walkValue] at hKept
        split at hKept
        · cases hKept
          exact
            valueLasts_of_walkCaptures check hDepth field
              fun member hMember => (hInner member hMember).1
        · rw [hScalar] at hKept
          cases hKept

/- What is kept of a rule lasts. -/
theorem lasts_of_walkRule
    {depth : Nat}
    {members : Json.Object}
    (hWithin : (Json.Value.object members).Within Any depth) :
    RuleLasts check depth (walkRule check members).kept :=
  (lasts_of_walk check hWithin).1 _
    (by rw [walkNested_object]; rfl)

end Import

------------------------------------------------------------
-- Documents
------------------------------------------------------------

namespace Document

open Import
open Json.Number (Any IsWord)

variable (check : Acceptance)
variable {document : Document}

/- What is kept of a document lasts. -/
theorem lasting_kept
    (hWithin : document.Within Any) :
    (document.kept check).Every (Acceptance.Lasting check) := by
  constructor
  · intro entry hEntry
    rcases List.mem_map.mp hEntry with ⟨old, hOld, rfl⟩
    exact
      (lasts_of_walkRule check
        (hWithin.entries old hOld)).every
  · intro rule hRule
    rcases List.mem_map.mp hRule with ⟨members, hMember, rfl⟩
    exact
      (lasts_of_walkRule check
        (hWithin.patterns members hMember)).every

/- A root field that is kept is written within the limit. -/
theorem within_toValue_keptExtra
    {depth : Nat}
    {value : Json.Value}
    {kept : ExtraValue}
    (hWithin : value.Within Any depth)
    (hKept : extraValue? value = some kept) :
    kept.toValue.Within IsWord depth := by
  rw [← toValue_of_extraValue? hKept] at hWithin
  cases kept with
  | text value => exact .string value
  | list values =>
      rcases Json.Value.Within.array_iff.mp hWithin with
        ⟨hDepth, -⟩
      refine .array hDepth ?_
      rw [List.forall_mem_map]
      exact fun value _ => .string value

/- What is kept of a document is written within the limit. -/
theorem within_toDocument_kept
    (hWithin : document.Within Any) :
    (document.kept check).toDocument.Within IsWord := by
  have hDistinct := nodup_keys_keptExtra hWithin.keys
  have hExtra :
      (document.kept check).toDocument.extra =
        (document.extra.filterMap keptExtra?).map
          fun field => (field.1, field.2.toValue) :=
    Grammar.extraObject_eq_map hDistinct
  have hKeys :
      (document.kept check).toDocument.extra.keys =
        (document.extra.filterMap keptExtra?).map Prod.fst := by
    rw [hExtra, Json.Object.keys, List.map_map]
    rfl
  have hOld :
      ∀ field ∈ document.extra.filterMap keptExtra?,
        ∃ value, (field.1, value) ∈ document.extra ∧
          extraValue? value = some field.2 := by
    intro field hField
    rcases List.mem_filterMap.mp hField with
      ⟨⟨key, value⟩, hMember, hOutcome⟩
    rcases Option.map_eq_some_iff.mp hOutcome with
      ⟨kept, hKept, rfl⟩
    exact ⟨value, hMember, hKept⟩
  constructor
  · intro entry hEntry
    rcases List.mem_map.mp hEntry with ⟨kept, hKept, rfl⟩
    rcases List.mem_map.mp hKept with ⟨old, hOld, rfl⟩
    exact
      (lasts_of_walkRule check
        (hWithin.entries old hOld)).within
  · intro members hMembers
    rcases List.mem_map.mp hMembers with ⟨rule, hRule, rfl⟩
    rcases List.mem_map.mp hRule with ⟨old, hOld, rfl⟩
    exact
      (lasts_of_walkRule check
        (hWithin.patterns old hOld)).within
  · rw [hExtra, List.forall_mem_map]
    intro field hField
    rcases hOld field hField with ⟨value, hMember, hKept⟩
    exact
      within_toValue_keptExtra (hWithin.extra _ hMember) hKept
  · rw [hKeys]
    exact hDistinct
  · rw [hKeys, List.forall_mem_map]
    intro field hField
    rcases hOld field hField with ⟨value, hMember, -⟩
    exact
      hWithin.unmodelled field.1 (List.mem_map_of_mem hMember)

end Document

end TextMate
