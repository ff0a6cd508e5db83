import TextMate.Proofs.Grammar.Shape
import TextMate.Proofs.Import.Reach

/-
  This file proves that an import leaves no rule out of shape
  that was in shape in the document.

  The shape of a rule in a document goes by its keys, whatever
  their values are, and that of an imported rule by the fields
  that were kept.  Any delimiter may have been dropped, and the
  fields that lost their pair go with it, so what is left is in
  shape again.

  Main declarations:
    * `Import.WellShaped`
    * `Rule.shapeFault?_dropUnpaired`
    * `Import.shapeFault?_kept_walkRule`
    * `validate_importGrammar`
-/

namespace TextMate

------------------------------------------------------------
-- Shapes of Rules
------------------------------------------------------------

/-
  Without the fields that lost their pair a rule is in shape, if
  it has neither a match besides a begin nor two ends.
-/
theorem Rule.shapeFault?_dropUnpaired
    {rule : Rule}
    (hApart :
      ¬(rule.has .matchPattern ∧ rule.has .beginPattern))
    (hEnds :
      ¬(rule.has .endPattern ∧ rule.has .whilePattern)) :
    rule.dropUnpaired.shapeFault? = none := by
  have hHas :
      ∀ field, rule.dropUnpaired.has field =
        if field ∈ rule.unpaired then false
        else rule.has field := by
    intro field
    unfold dropUnpaired has
    rw [get?_foldl_erase]
    split <;> rfl
  rw [shapeFault?_eq_none_iff]
  simp only [hHas]
  unfold unpaired
  cases hMatch : rule.has .matchPattern <;>
    cases hBegin : rule.has .beginPattern <;>
    cases hEnd : rule.has .endPattern <;>
    cases hWhile : rule.has .whilePattern <;>
    simp_all

namespace Import

------------------------------------------------------------
-- Shapes of Objects
------------------------------------------------------------

/- An object has a member with the key of a field. -/
def HasMember
    (members : Json.Object)
    (field : Field) : Prop :=
  field.key ∈ members.keys

instance
    (members : Json.Object)
    (field : Field) :
    Decidable (HasMember members field) := by
  unfold HasMember
  infer_instance

/-
  The keys of a rule fit together, whatever their values: it
  does not both match and begin, it begins with exactly one of
  an end and a while, and it has none of these otherwise.
-/
structure WellShaped
    (members : Json.Object) : Prop where
  apart :
    ¬(HasMember members .matchPattern ∧
      HasMember members .beginPattern)
  paired :
    HasMember members .beginPattern →
      (HasMember members .endPattern ∨
          HasMember members .whilePattern) ∧
        ¬(HasMember members .endPattern ∧
          HasMember members .whilePattern)
  begun :
    HasMember members .endPattern ∨
        HasMember members .whilePattern →
      HasMember members .beginPattern

/- Such a rule begins just where it ends or continues. -/
theorem wellShaped_iff
    (members : Json.Object) :
    WellShaped members ↔
      ¬(HasMember members .matchPattern ∧
          HasMember members .beginPattern) ∧
        (HasMember members .beginPattern ↔
          HasMember members .endPattern ∨
            HasMember members .whilePattern) ∧
        ¬(HasMember members .endPattern ∧
          HasMember members .whilePattern) := by
  constructor
  · rintro ⟨hApart, hPaired, hBegun⟩
    refine
      ⟨hApart, ⟨fun hBegin => (hPaired hBegin).1, hBegun⟩, ?_⟩
    intro hBoth
    exact (hPaired (hBegun (Or.inl hBoth.1))).2 hBoth
  · rintro ⟨hApart, hBegin, hBoth⟩
    exact
      ⟨hApart, fun hFirst => ⟨hBegin.mp hFirst, hBoth⟩,
        hBegin.mpr⟩

instance : DecidablePred WellShaped := fun members =>
  decidable_of_iff _ (wellShaped_iff members).symm

------------------------------------------------------------
-- Fields That Are Kept
------------------------------------------------------------

/- A field that is to be set is set, and none is removed. -/
theorem has_assemble
    {outcomes : Outcomes}
    (hKinds :
      ∀ field value, (field, some value) ∈ outcomes →
        value.kind = field.kind)
    {rule : Rule}
    {field : Field}
    (hSet :
      rule.has field ∨
        ∃ value, (field, some value) ∈ outcomes) :
    (assemble rule outcomes).has field := by
  induction outcomes generalizing rule with
  | nil =>
      rcases hSet with hHas | ⟨_, hNone⟩
      · exact hHas
      · cases hNone
  | cons outcome rest ih =>
      rcases outcome with ⟨first, kept⟩
      rw [assemble, List.foldl_cons, ← assemble]
      apply ih fun field value hMember =>
        hKinds field value (List.mem_cons_of_mem _ hMember)
      cases kept with
      | none =>
          refine hSet.imp_right ?_
          rintro ⟨value, hMember⟩
          rcases List.mem_cons.mp hMember with hFirst | hRest
          · cases hFirst
          · exact ⟨value, hRest⟩
      | some new =>
          have hKind := hKinds first new List.mem_cons_self
          by_cases hSame : first = field
          · refine Or.inl ?_
            subst hSame
            simp [Rule.has, Rule.get?_set _ hKind]
          · refine hSet.imp ?_ ?_
            · intro hHas
              simpa [Rule.has, Rule.get?_set _ hKind, hSame]
                using hHas
            · rintro ⟨value, hMember⟩
              rcases List.mem_cons.mp hMember with hFirst | hRest
              · cases hFirst
                exact absurd rfl hSame
              · exact ⟨value, hRest⟩

/-
  What is kept of a rule in shape is in shape.  Each field that
  is kept has a member, and if no delimiter was dropped then
  each delimiter with a member is kept.
-/
theorem shapeFault?_kept_walkRule
    (check : Acceptance)
    {members : Json.Object}
    (hShaped : WellShaped members) :
    (walkRule check members).kept.shapeFault? = none := by
  set outcomes := (walkMembers check members).kept
  set rule := assemble .empty outcomes
  have hKinds :
      ∀ field value, (field, some value) ∈ outcomes →
        value.kind = field.kind :=
    fun _ _ => kind_of_mem_walkMembers check
  have hMember :
      ∀ field, rule.has field → HasMember members field := by
    intro field hHas
    rcases Option.isSome_iff_exists.mp hHas with ⟨value, hValue⟩
    rcases mem_of_get?_assemble hKinds hValue with hSet | hNone
    · rcases (mem_kept_walkMembers_iff check).mp hSet with
        ⟨_, hMember, -⟩
      exact List.mem_map_of_mem hMember
    · rw [Rule.get?_empty] at hNone
      cases hNone
  have hMissing :
      ∀ x y : Field,
        ¬(HasMember members x ∧ HasMember members y) →
          ¬(rule.has x ∧ rule.has y) :=
    fun x y hNot hBoth =>
      hNot ⟨hMember x hBoth.1, hMember y hBoth.2⟩
  rcases (wellShaped_iff members).mp hShaped with
    ⟨hApart, hBegin, hEnds⟩
  have hSettled :
      (walkRule check members).kept = (settled outcomes).kept :=
    rfl
  rw [hSettled, settled]
  cases hLost : losesDelimiter outcomes with
  | true =>
      exact
        Rule.shapeFault?_dropUnpaired (hMissing _ _ hApart)
          (hMissing _ _ hEnds)
  | false =>
      have hKept :
          ∀ field, field.isDelimiter →
            (rule.has field ↔ HasMember members field) := by
        intro field hDelimiter
        refine ⟨hMember field, fun hHas => ?_⟩
        rcases List.mem_map.mp hHas with
          ⟨⟨key, value⟩, hValue, hKey⟩
        have hOutcome :
            (field, (walkValue check field value).kept) ∈
              outcomes :=
          (mem_kept_walkMembers_iff check).mpr
            ⟨value, hKey ▸ hValue, rfl⟩
        cases hOwn : (walkValue check field value).kept with
        | some kept =>
            exact
              has_assemble hKinds (Or.inr ⟨kept, hOwn ▸ hOutcome⟩)
        | none =>
            rw [losesDelimiter, List.any_eq_false] at hLost
            have hNone := hLost _ hOutcome
            simp [hOwn, hDelimiter] at hNone
      rw [Rule.shapeFault?_eq_none_iff]
      have hB := hKept .beginPattern rfl
      have hE := hKept .endPattern rfl
      have hW := hKept .whilePattern rfl
      refine ⟨hMissing _ _ hApart, ?_, hMissing _ _ hEnds⟩
      show rule.has _ ↔ rule.has _ ∨ rule.has _
      rw [hB, hE, hW]
      exact hBegin

end Import

------------------------------------------------------------
-- Grammars
------------------------------------------------------------

open Import

/-
  A grammar that is imported from a document whose rules are in
  shape by their keys is valid, whatever was dropped.  A rule
  for which an imported grammar is not valid is what the import
  made of a rule that is out of shape in the document.
-/
theorem validate_importGrammar
    (check : Acceptance)
    (document : Document)
    (journal : Journal)
    (grammar : Grammar)
    (hRun :
      ((importGrammar check document).start journal).1 =
        .ok grammar) :
    ((∀ root place members,
        document.Reaches root place members →
          WellShaped members) →
      grammar.validate = .ok ()) ∧
    ∀ error, grammar.validate = .error error →
      ∃ path rule fault root place members,
        (path, rule) ∈ grammar.visit ∧
        rule.shapeFault? = some fault ∧
        error = .invalidRule path fault.reason ∧
        document.Reaches root place members ∧
        ((importRule check (place.path root.path) members).start
          .empty).1 = .ok rule ∧
        ¬WellShaped members := by
  rcases (importGrammar_follows check document).of_ok hRun with
    ⟨hErrors, rfl, -⟩
  constructor
  · intro hShaped
    refine (checkShapes_eq_ok_iff _).mpr ?_
    intro visited hVisited
    rcases Document.exists_reaches_of_mem_visit check hVisited
      with ⟨root, place, members, hReaches, hRule⟩
    rw [← hRule]
    exact
      shapeFault?_kept_walkRule check
        (hShaped root place members hReaches)
  · intro error hError
    rcases exists_shapeFault_of_checkShapes hError with
      ⟨⟨path, rule⟩, hVisited, fault, hFault, hText⟩
    rcases Document.exists_reaches_of_mem_visit check hVisited
      with ⟨root, place, members, hReaches, hRule⟩
    have hImport :=
      Document.start_importRule_of_reaches check hErrors hReaches
        (place.path root.path) .empty
    rw [hRule] at hImport
    refine
      ⟨path, rule, fault, root, place, members, hVisited, hFault,
        hText, hReaches, hImport, ?_⟩
    intro hShaped
    have hNone := shapeFault?_kept_walkRule check hShaped
    rw [hRule] at hNone
    cases hFault.symm.trans hNone

/-
  A document whose rules each lose a delimiter: a begin that is
  refused, and in the captures behind it a while that is null.
-/
def brokenDocument : Document where
  name := "broken"
  scopeName := "source.broken"
  injectionSelector := none
  patterns :=
    [[("begin", .string "("), ("end", .string "b"),
      ("beginCaptures",
        .object
          [("0",
            .object
              [("begin", .string "a"), ("while", .null)])])]]
  repository := []
  extra := []

/- The rules of the document are in shape by their keys. -/
theorem wellShaped_brokenDocument :
    ∀ root place members,
      brokenDocument.Reaches root place members →
        WellShaped members := by
  intro root place members hReaches
  cases hReaches with
  | entry hEntry _ => cases hEntry
  | pattern hItem hInner =>
      rcases List.mem_singleton.mp hItem with hEqual
      cases hEqual
      cases hInner with
      | self => decide
      | nested hMember hHolds hInner =>
          simp only [List.mem_cons, Prod.mk.injEq,
            List.not_mem_nil, or_false] at hMember
          rcases hMember with ⟨-, rfl⟩ | ⟨-, rfl⟩ | ⟨-, rfl⟩
          · cases hHolds
          · cases hHolds
          · cases hHolds with
            | group _ hEntry =>
                cases List.mem_singleton.mp hEntry
                cases hInner with
                | self => decide
                | nested hMember hHolds _ =>
                    simp only [List.mem_cons, Prod.mk.injEq,
                      List.not_mem_nil, or_false] at hMember
                    rcases hMember with ⟨-, rfl⟩ | ⟨-, rfl⟩ <;>
                      cases hHolds

/- A region that lost its begin leaves a valid grammar. -/
theorem validate_importGrammar_brokenDocument :
    let check : Acceptance := fun text =>
      if text = "(" then some "refused" else none
    let grammar := brokenDocument.kept check
    ((importGrammar check brokenDocument).start
          Journal.empty).1 =
        .ok grammar ∧
      (∀ rule ∈ grammar.patterns, rule.has .endPattern = false) ∧
      grammar.validate = .ok () := by
  intro check grammar
  have hRun :
      ((importGrammar check brokenDocument).start
          Journal.empty).1 =
        .ok grammar := by
    rfl
  have hValid :=
    validate_importGrammar check brokenDocument Journal.empty
      grammar hRun
  exact ⟨hRun, by decide, hValid.1 wellShaped_brokenDocument⟩

end TextMate
