import TextMate.Proofs.Import.Assemble
import TextMate.Proofs.Import.CanonicalKeys
import TextMate.Proofs.Import.DocumentWalk
import TextMate.Proofs.Import.RootFields
import TextMate.Proofs.Rule.MapPatterns
import TextMate.Proofs.Rule.Object
import TextMate.Proofs.Rule.Visit

/-
  This file proves that an import undoes an export.

  A document does not tell a plain text from a pattern, so the
  grammar that comes back has the pattern of every text.  Each
  field that is written is read again under its own key, so no
  field is lost, nothing is found, and no pair is broken.

  Main declarations:
    * `Acceptance.Accepts`
    * `walkRule_toObject`
    * `kept_toDocument`
    * `importGrammar_toDocument`
-/

namespace TextMate

namespace Import

/-
  A pattern is accepted by its text, or it is not judged.
-/
def Acceptance.Accepts
    (check : Acceptance)
    (field : Field) : FieldValue → Prop
  | .pattern value =>
      check value.toText = none ∨
        (field = .endPattern ∨ field = .whilePattern) ∧
          (Pattern.ofText value.toText).hasBackreferences
  | .label _ | .captures _ | .children _ => True

instance
    (check : Acceptance)
    (field : Field) :
    DecidablePred (Acceptance.Accepts check field)
  | .pattern value =>
      inferInstanceAs
        (Decidable
          (check value.toText = none ∨
            (field = .endPattern ∨ field = .whilePattern) ∧
              (Pattern.ofText value.toText).hasBackreferences))
  | .label _ | .captures _ | .children _ =>
      inferInstanceAs (Decidable True)

variable (check : Acceptance)

------------------------------------------------------------
-- Captures Keys
------------------------------------------------------------

/- Walk over what is written for the value of a field. -/
def walkWritten
    (field : Field) : FieldValue → Walk (Option FieldValue)
  | .pattern value => walkText check field value.toText
  | .label text => .done (some (.label text))
  | .captures entries =>
      (walkCaptures check
          (entries.map fun entry =>
            (toString entry.1.toNat,
              .object entry.2.toObject))).map
        fun entries => some (.captures (.ofList entries))
  | .children rules =>
      (walkItems check 0
          (rules.map fun rule => .object rule.toObject)).map
        fun rules => some (.children rules)

/- A value is written in the type that its field asks for. -/
theorem walkValue_toValue
    {field : Field}
    {value : FieldValue}
    (hKind : value.kind = field.kind) :
    walkValue check field value.toValue =
      walkWritten check field value := by
  cases value with
  | pattern value => rfl
  | label text =>
      rw [FieldValue.toValue, walkValue, walkText, ← hKind]
      rfl
  | captures entries =>
      rw [FieldValue.toValue, walkValue, ← hKind]
      rfl
  | children rules =>
      rw [FieldValue.toValue, walkValue, ← hKind]
      rfl

/- An export writes the captures keys as texts of indexes. -/
theorem canonical_walkRule_toObject
    (rule : Rule) :
    (walkRule check rule.toObject).Canonical := by
  induction rule using Rule.induction with
  | step rule ih =>
      rw [canonical_walkRule_iff]
      intro member hMember field hField
      rcases (rule.mem_toObject_iff member).mp hMember with
        ⟨_, value, hValue, rfl⟩
      rw [Field.ofKey?_key] at hField
      cases hField
      have hInner := ih field value hValue
      rw [walkValue_toValue check (Rule.kind_of_get? hValue)]
      -- Only captures and lists of rules have keys in them.
      cases value with
      | pattern value =>
          exact Walk.canonical_of_keys_eq_nil
            (keys_walkText check field value.toText)
      | label text => exact Walk.canonical_of_keys_eq_nil rfl
      | captures entries =>
          rw [walkWritten, Walk.canonical_map_iff,
            canonical_walkCaptures_iff, List.forall_mem_map]
          intro entry hEntry
          refine ⟨⟨entry.1, rfl⟩, ?_⟩
          rw [walkNested_object, Walk.canonical_map_iff]
          exact hInner entry.2 (List.mem_map_of_mem hEntry)
      | children rules =>
          rw [walkWritten, Walk.canonical_map_iff,
            canonical_walkItems_iff, List.forall_mem_map]
          intro nested hNested
          rw [walkNested_object, Walk.canonical_map_iff]
          exact hInner nested hNested

------------------------------------------------------------
-- Rules
------------------------------------------------------------

/- A walk keeps a value and finds nothing. -/
def Walk.Keeps
    {α : Type}
    (walk : Walk α)
    (value : α) : Prop :=
  walk.kept = value ∧ walk.findings = []

theorem Walk.Keeps.map
    {α β : Type}
    {walk : Walk α}
    {value : α}
    (hKeeps : walk.Keeps value)
    (change : α → β) :
    (walk.map change).Keeps (change value) :=
  ⟨congrArg change hKeeps.1, hKeeps.2⟩

/- A text that is accepted becomes its pattern. -/
theorem walkText_of_accepts
    {field : Field}
    {value : PatternValue}
    (hKind : field.kind = .pattern)
    (hAccepts :
      Acceptance.Accepts check field (.pattern value)) :
    walkText check field value.toText =
      .done (some (.pattern value.recompiled)) := by
  unfold walkText
  simp only [hKind]
  split
  · rename_i reason hJudged hRefused
    exfalso
    rcases hAccepts with hCheck | ⟨hField, hReferences⟩
    · rw [hCheck] at hRefused
      cases hRefused
    · rcases hField with rfl | rfl <;>
        simp [isJudged, hReferences] at hJudged
  · rfl

/- Captures are kept if the rules for the groups are. -/
theorem walkCaptures_keeps
    {entries : Captures}
    (change : Rule → Rule)
    (hRules :
      ∀ entry ∈ entries,
        (walkRule check entry.2.toObject).Keeps
          (change entry.2)) :
    (walkCaptures check
        (entries.map fun entry =>
          (toString entry.1.toNat,
            .object entry.2.toObject))).Keeps
      (entries.map fun entry => (entry.1, change entry.2)) := by
  constructor
  · rw [kept_walkCaptures, List.flatMap_map,
      List.map_eq_flatMap]
    refine List.flatMap_congr fun entry hEntry => ?_
    rw [walkNested_object, groupEntry, groupIndex?_toString,
      ((hRules entry hEntry).map some).1]
    rfl
  · rw [findings_walkCaptures, List.flatMap_map,
      List.flatMap_eq_nil_iff]
    intro entry hEntry
    rw [walkNested_object, Walk.below,
      ((hRules entry hEntry).map some).2, List.map_nil]

/- A list of rules is kept if the rules are. -/
theorem walkItems_keeps
    {rules : List Rule}
    (change : Rule → Rule)
    (hRules :
      ∀ rule ∈ rules,
        (walkRule check rule.toObject).Keeps (change rule)) :
    (walkItems check 0
        (rules.map fun rule => .object rule.toObject)).Keeps
      (rules.map change) := by
  constructor
  · rw [kept_walkItems, List.filterMap_map,
      List.filterMap_eq_map_iff_forall_eq_some]
    intro rule hRule
    exact ((hRules rule hRule).map some).1
  · rw [findings_walkItems, List.flatMap_eq_nil_iff]
    rintro ⟨item, position⟩ hItem
    rcases List.mem_map.mp (List.fst_mem_of_mem_zipIdx hItem)
      with ⟨rule, hRule, rfl⟩
    rw [walkNested_object, Walk.below,
      ((hRules rule hRule).map some).2, List.map_nil]

/- The value of a field is kept if the rules in it are. -/
theorem walkWritten_keeps
    {field : Field}
    {value : FieldValue}
    (hKind : value.kind = field.kind)
    (hKeyed : value.Keyed)
    (hAccepts : Acceptance.Accepts check field value)
    (hRules :
      ∀ inner ∈ value.rules,
        (walkRule check inner.toObject).Keeps
          (inner.mapPatterns .recompiled)) :
    (walkWritten check field value).Keeps
      (some (value.mapPatterns .recompiled)) := by
  cases value with
  | pattern value =>
      rw [walkWritten,
        walkText_of_accepts check hKind.symm hAccepts]
      exact ⟨rfl, rfl⟩
  | label text => exact ⟨rfl, rfl⟩
  | captures entries =>
      have hAscending :
          Captures.Ascending
            (entries.map fun entry =>
              (entry.1, entry.2.mapPatterns .recompiled)) :=
        List.pairwise_map.mpr hKeyed
      have hEntries :=
        walkCaptures_keeps check (Rule.mapPatterns .recompiled)
          fun entry hEntry =>
            hRules entry.2 (List.mem_map_of_mem hEntry)
      have hWhole :=
        hEntries.map fun entries =>
          some (FieldValue.captures (.ofList entries))
      rw [Captures.ofList_eq_self hAscending] at hWhole
      exact hWhole
  | children rules =>
      have hItems :=
        walkItems_keeps check (Rule.mapPatterns .recompiled)
          hRules
      exact hItems.map fun rules =>
        some (FieldValue.children rules)

/-
  If a walk keeps the value of every field then it keeps the
  rule.
-/
theorem walkRule_keeps
    {rule : Rule}
    {change : PatternValue → PatternValue}
    (hValues :
      ∀ field value, rule.get? field = some value →
        (walkValue check field value.toValue).Keeps
          (some (value.mapPatterns change))) :
    (walkRule check rule.toObject).Keeps
      (rule.mapPatterns change) := by
  have hLost :
      losesDelimiter
        (walkMembers check rule.toObject).kept = false := by
    rw [losesDelimiter, List.any_eq_false]
    intro outcome hOutcome
    rw [kept_walkMembers, List.mem_filterMap] at hOutcome
    rcases hOutcome with ⟨member, hMember, hOutcome⟩
    rcases (rule.mem_toObject_iff member).mp hMember with
      ⟨field, value, hValue, rfl⟩
    simp only [memberOutcome?, Field.ofKey?_key,
      Option.map_some, Option.some.injEq,
      (hValues field value hValue).1] at hOutcome
    subst hOutcome
    simp
  have hKept :
      assemble .empty (walkMembers check rule.toObject).kept =
        rule.mapPatterns change := by
    apply Rule.ext_get?
    intro field
    apply Option.ext
    intro kept
    rw [get?_assemble_walkMembers check
        rule.nodup_keys_toObject,
      Rule.get?_mapPatterns, Option.map_eq_some_iff]
    constructor
    · rintro ⟨written, hMember, hKept⟩
      rcases (rule.mem_toObject_iff _).mp hMember with
        ⟨_, value, hValue, hWritten⟩
      rcases Prod.mk.inj hWritten with ⟨hKey, rfl⟩
      cases Field.key_injective hKey
      rw [(hValues field value hValue).1] at hKept
      exact ⟨value, hValue, Option.some.inj hKept⟩
    · rintro ⟨value, hValue, rfl⟩
      exact
        ⟨value.toValue,
          (rule.mem_toObject_iff _).mpr
            ⟨field, value, hValue, rfl⟩,
          (hValues field value hValue).1⟩
  have hFindings :
      (walkMembers check rule.toObject).findings = [] := by
    rw [findings_walkMembers, List.flatMap_eq_nil_iff]
    intro member hMember
    rcases (rule.mem_toObject_iff member).mp hMember with
      ⟨field, value, hValue, rfl⟩
    simp only [memberFindings, Field.ofKey?_key, Walk.below,
      (hValues field value hValue).2, List.map_nil]
  rw [walkRule, settled, hLost, hKept]
  refine ⟨rfl, ?_⟩
  simp [Walk.join, Walk.done, hFindings]

/- An exported rule is kept whole and nothing is found. -/
theorem walkRule_toObject
    {rule : Rule}
    (hKeyed : rule.Keyed)
    (hAccepts : rule.Every (Acceptance.Accepts check)) :
    (walkRule check rule.toObject).Keeps
      (rule.mapPatterns .recompiled) := by
  induction rule using Rule.induction with
  | step rule ih =>
      apply walkRule_keeps
      intro field value hValue
      have hKind := Rule.kind_of_get? hValue
      rw [walkValue_toValue check hKind]
      apply walkWritten_keeps check hKind (hKeyed.own hValue)
        (hAccepts.own hValue)
      intro inner hInner
      exact ih field value hValue inner hInner
        (hKeyed.nested hValue hInner)
        (hAccepts.nested hValue hInner)

end Import

open Import

------------------------------------------------------------
-- Grammars
------------------------------------------------------------

namespace Document

variable (check : Acceptance)

/- Distinct names and canonical keys stop no import. -/
theorem errors_eq_nil
    {document : Document}
    (hNames : (document.repository.map Prod.fst).Nodup)
    (hEntries :
      ∀ entry ∈ document.repository,
        (walkRule check entry.2).Canonical)
    (hPatterns :
      ∀ members ∈ document.patterns,
        (walkRule check members).Canonical) :
    document.errors check = [] := by
  have hTaken :
      ∀ (entries : List (String × Json.Object))
        (taken : List String),
        (taken ++ entries.map Prod.fst).Nodup →
          (∀ entry ∈ entries,
            (walkRule check entry.2).Canonical) →
          entryErrors check taken entries = [] := by
    intro entries
    induction entries with
    | nil => exact fun _ _ _ => rfl
    | cons entry entries ih =>
        intro taken hAll hCanonical
        have hNew : entry.1 ∉ taken := fun hOld =>
          (List.nodup_append.mp hAll).2.2 _ hOld _
            List.mem_cons_self rfl
        have hFirst := hCanonical entry List.mem_cons_self
        rw [List.map_cons, List.append_cons] at hAll
        rw [entryErrors, if_neg hNew, hFirst.errors_eq_nil,
          ih _ hAll fun other hOther =>
            hCanonical other (List.mem_cons_of_mem _ hOther)]
        rfl
  rw [errors, hTaken _ [] hNames hEntries, List.nil_append,
    List.flatMap_eq_nil_iff]
  rintro ⟨members, position⟩ hItem
  exact
    (hPatterns members
      (List.fst_mem_of_mem_zipIdx hItem)).errors_eq_nil _

end Document

namespace Grammar

variable (check : Acceptance)
variable {grammar : Grammar}

/- No export is stopped when it is imported. -/
theorem errors_toDocument
    (hNames : grammar.repository.names.Nodup) :
    grammar.toDocument.errors check = [] := by
  apply Document.errors_eq_nil
  · rw [toDocument, Repository.toEntries, List.map_map]
    exact hNames
  · rw [toDocument, Repository.toEntries, List.forall_mem_map]
    exact fun entry _ =>
      canonical_walkRule_toObject check entry.2
  · rw [toDocument, List.forall_mem_map]
    exact fun rule _ => canonical_walkRule_toObject check rule

/- All of an export is kept. -/
theorem kept_toDocument
    (hKeyed : grammar.Keyed)
    (hExtra : (grammar.extra.map Prod.fst).Nodup)
    (hAccepts : grammar.Every (Acceptance.Accepts check)) :
    grammar.toDocument.kept check =
      grammar.mapPatterns .recompiled := by
  have hPatterns :
      (grammar.patterns.map Rule.toObject).map
          (fun members => (walkRule check members).kept) =
        grammar.patterns.map (Rule.mapPatterns .recompiled) := by
    rw [List.map_map]
    exact List.map_congr_left fun rule hRule =>
      (walkRule_toObject check (hKeyed.captures.2 rule hRule)
        (hAccepts.2 rule hRule)).1
  have hEntries :
      grammar.repository.toEntries.map
          (fun entry => (entry.1, (walkRule check entry.2).kept)) =
        grammar.repository.entries.map
          (fun entry =>
            (entry.1, entry.2.mapPatterns .recompiled)) := by
    rw [Repository.toEntries, List.map_map]
    refine List.map_congr_left fun entry hEntry => ?_
    exact congrArg (Prod.mk entry.1)
      (walkRule_toObject check (hKeyed.captures.1 entry hEntry)
        (hAccepts.1 entry hEntry)).1
  have hFields :
      (extraObject grammar.extra).filterMap
          Document.keptExtra? =
        grammar.extra := by
    rw [extraObject_eq_map hExtra, List.filterMap_map]
    refine Eq.trans (List.filterMap_congr ?_)
      List.filterMap_some
    intro field _
    rw [Function.comp_apply, Document.keptExtra?,
      extraValue?_toValue]
    rfl
  simp only [Document.kept, toDocument, mapPatterns, hPatterns,
    hEntries, hFields]

/- Nothing but the root fields of an export is reported. -/
theorem reports_toDocument
    (hKeyed : grammar.Keyed)
    (hExtra : (grammar.extra.map Prod.fst).Nodup)
    (hAccepts : grammar.Every (Acceptance.Accepts check)) :
    grammar.toDocument.reports check =
      grammar.extra.map fun field =>
        ⟨.extra field.1, Document.unrecognized⟩ := by
  have hEntries :
      grammar.repository.toEntries.flatMap
          (Document.entryReports check) =
        [] := by
    rw [Repository.toEntries, List.flatMap_map,
      List.flatMap_eq_nil_iff]
    intro entry hEntry
    rw [Document.entryReports,
      (walkRule_toObject check (hKeyed.captures.1 entry hEntry)
        (hAccepts.1 entry hEntry)).2]
    rfl
  have hPatterns :
      (grammar.patterns.map Rule.toObject).zipIdx.flatMap
          (Document.patternReports check) =
        [] := by
    rw [List.flatMap_eq_nil_iff]
    rintro ⟨members, position⟩ hItem
    rcases List.mem_map.mp (List.fst_mem_of_mem_zipIdx hItem)
      with ⟨rule, hRule, rfl⟩
    rw [Document.patternReports,
      (walkRule_toObject check (hKeyed.captures.2 rule hRule)
        (hAccepts.2 rule hRule)).2]
    rfl
  rw [Document.reports, toDocument, hEntries, hPatterns,
    extraObject_eq_map hExtra, List.flatMap_map,
    List.map_eq_flatMap]
  refine List.flatMap_congr fun field _ => ?_
  rw [Document.extraReports, extraValue?_toValue]
  rfl

end Grammar

/-
  An import undoes an export.  It never fails; and if every
  pattern is accepted, or is an end or while pattern with
  backreferences, then the grammar comes back with the pattern
  of every text, and only the root fields that are not
  modelled are reported, each once.
-/
theorem importGrammar_toDocument
    (check : Acceptance)
    (grammar : Grammar)
    (hKeyed : grammar.Keyed)
    (hExtra : (grammar.extra.map Prod.fst).Nodup)
    (journal : Journal) :
    let run :=
      (importGrammar check grammar.toDocument).start journal
    (∃ result, run.1 = .ok result) ∧
      (grammar.Every (Acceptance.Accepts check) →
        run.1 = .ok (grammar.mapPatterns .recompiled) ∧
          run.2.diagnostics =
            journal.diagnostics ++ grammar.extra.map fun field =>
              ⟨.warning, field.1, .unrecognizedField⟩) ∧
      (grammar.Every (Acceptance.Accepts check) →
        (grammar.Every fun _ value => value.OfText) →
        run.1 = .ok grammar) := by
  intro run
  have hRun :=
    importGrammar_follows check grammar.toDocument journal
  rw [grammar.errors_toDocument check hKeyed.names] at hRun
  rcases hRun with ⟨hResult, hDiagnostics⟩
  have hKept :
      grammar.Every (Acceptance.Accepts check) →
        run.1 = .ok (grammar.mapPatterns .recompiled) := by
    intro hAccepts
    rw [← grammar.kept_toDocument check hKeyed hExtra hAccepts]
    exact hResult
  refine ⟨⟨_, hResult⟩, ?_, ?_⟩
  · intro hAccepts
    refine ⟨hKept hAccepts, ?_⟩
    rw [grammar.reports_toDocument check hKeyed hExtra hAccepts,
      List.map_map] at hDiagnostics
    exact hDiagnostics
  · intro hAccepts hOfText
    have hSame := Grammar.mapPatterns_recompiled hOfText
    exact hSame ▸ hKept hAccepts

/-
  A region whose end refers to a group of its begin, where the
  begin is a plain text and the captures are by index.
-/
def quotedRegion : Grammar :=
  { Grammar.empty with
    patterns :=
      [{ Rule.empty with
          beginPattern := some (.verbatim "(a)")
          endPattern := some (.compiled ⟨"\\1", .none⟩)
          endCaptures :=
            some
              [(2, { Rule.empty with name := some "end" }),
                (10, .empty)]
          patterns := some [] }]
    extra := [("uuid", .text "1"), ("fileTypes", .list [])] }

/- The end comes back although its text is refused. -/
theorem importGrammar_toDocument_quotedRegion :
    let check : Acceptance := fun text =>
      if text = "(a)" then none else some "refused"
    let run :=
      (importGrammar check quotedRegion.toDocument).start
        Journal.empty
    run.1 = .ok (quotedRegion.mapPatterns .recompiled) ∧
      run.2.diagnostics =
        [⟨.warning, "uuid", .unrecognizedField⟩,
          ⟨.warning, "fileTypes", .unrecognizedField⟩] := by
  intro check run
  have hKeyed : quotedRegion.Keyed := by decide
  have hExtra : (quotedRegion.extra.map Prod.fst).Nodup := by
    decide
  have hAccepts :
      quotedRegion.Every (Acceptance.Accepts check) := by
    decide
  exact
    (importGrammar_toDocument check quotedRegion hKeyed hExtra
      Journal.empty).2.1 hAccepts

end TextMate
