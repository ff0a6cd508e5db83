import TextMate.Proofs.Grammar.Include
import TextMate.Proofs.Import.Nested
import TextMate.Proofs.Import.Shape

/-
  This file relates the paths at which the rules of an imported
  grammar are visited to the places of the document at which
  they were read.

  A check of the grammar names paths of visits, and these agree
  with the places where each captures key is the text of its
  index and no item of a list is dropped before a rule.  Where
  they do not agree, the path of a rule may lead to another node
  of the document, such as one that was dropped.

  Main declarations:
    * `Import.Keeps`
    * `Import.mem_visit_walkRule_iff`
    * `Import.mem_findings_of_reaches`
    * `Document.Keeps`
    * `Document.IsSteady`
    * `mem_visit_importGrammar_iff`
-/

namespace TextMate

namespace Import

variable (check : Acceptance)

------------------------------------------------------------
-- Rules That Are Kept
------------------------------------------------------------

/-
  The import of a rule reads another one at the first place and
  keeps it, and it is visited at the second.
-/
inductive Keeps :
    Json.Object → Place → Place → Json.Object → Prop where
  | self
      {members : Json.Object} :
      Keeps members [] [] members
  | nested
      {members inner rule : Json.Object}
      {field : Field}
      {value : Json.Value}
      {step shown : Step}
      {place rest : Place}
      (hMember : (field.key, value) ∈ members)
      (hField : (walkRule check members).kept.has field)
      (hKeeps : KeepsRule field value step shown inner)
      (hInner : Keeps inner place rest rule) :
      Keeps members (.member field.key :: step :: place)
        (.member field.key :: shown :: rest) rule

variable {check}

/- A rule that is kept is reached. -/
theorem Keeps.reaches
    {members rule : Json.Object}
    {place shown : Place}
    (hKeeps : Keeps check members place shown rule) :
    Reaches members place rule := by
  induction hKeeps with
  | self => exact .self
  | nested hMember _ hKeeps _ ih =>
      exact .nested hMember hKeeps.holdsRule ih

------------------------------------------------------------
-- Values with Rules in Place
------------------------------------------------------------

/-
  The rules in a value stay where they are: each captures key
  of a rule is the text of an index, or no item of a list of
  rules that is no object comes before one.
-/
def InPlace : FieldKind → Json.Value → Prop
  | .captures, .object entries =>
      ∀ entry ∈ entries, isRule entry.2 → IsCanonicalKey entry.1
  | .children, .array items =>
      items.Pairwise fun earlier later =>
        isRule later → isRule earlier
  | _, _ => True

/- A rule that stays where it is is shown there. -/
theorem KeepsRule.shown_eq
    {field : Field}
    {value : Json.Value}
    {step shown : Step}
    {members : Json.Object}
    (hKeeps : KeepsRule field value step shown members)
    (hInPlace : InPlace field.kind value) :
    shown = step := by
  cases hKeeps with
  | @group before after _ key index hKind hIndex _ =>
      rw [hKind] at hInPlace
      have hKey : IsCanonicalKey key :=
        hInPlace (key, .object members)
          (List.mem_append_right _ List.mem_cons_self) rfl
      rcases hKey.groupIndex?_eq with ⟨other, hOther, hText⟩
      have hSame : index = other :=
        Option.some.inj (hIndex.symm.trans hOther)
      rw [hText, hSame]
  | @item before after _ hKind =>
      rw [hKind] at hInPlace
      have hBefore : ∀ value ∈ before, isRule value := by
        intro value hValue
        exact
          (List.pairwise_append.mp hInPlace).2.2 value hValue
            (.object members) List.mem_cons_self rfl
      rw [List.countP_eq_length.mpr hBefore]

/- A rule that is kept is shown where it is read, if all stay. -/
theorem Keeps.shown_eq
    {members rule : Json.Object}
    {place shown : Place}
    (hKeeps : Keeps check members place shown rule)
    (hInPlace :
      ∀ place inner, Reaches members place inner →
        ∀ field value, (Field.key field, value) ∈ inner →
          InPlace field.kind value) :
    shown = place := by
  induction hKeeps with
  | self => rfl
  | nested hMember _ hKeeps _ ih =>
      have hStep :=
        hKeeps.shown_eq (hInPlace _ _ .self _ _ hMember)
      have hRest :=
        ih fun place inner hInner =>
          hInPlace _ inner
            (.nested hMember hKeeps.holdsRule hInner)
      rw [hStep, hRest]

variable (check)

------------------------------------------------------------
-- Visits of Rules That Are Kept
------------------------------------------------------------

/- The rules that are visited are those that are kept. -/
theorem mem_visit_walkRule_iff
    {members : Json.Object}
    (hTidy : (Json.Value.object members).Tidy)
    {path : String}
    {visited : String × Rule} :
    visited ∈ (walkRule check members).kept.visit path ↔
      ∃ place shown inner,
        Keeps check members place shown inner ∧
          visited.1 = shown.path path ∧
          (walkRule check inner).kept = visited.2 := by
  constructor
  · intro hVisited
    generalize hRule : (walkRule check members).kept = rule
      at hVisited
    induction rule using Rule.induction
      generalizing members path with
    | step rule ih =>
        rw [Rule.visit_eq_cons, List.mem_cons,
          List.mem_flatMap] at hVisited
        rcases hVisited with
          rfl | ⟨⟨field, kept⟩, hField, hVisit⟩
        · exact ⟨[], [], members, .self, rfl, hRule⟩
        · have hGet := (rule.mem_fields_iff _ _).mp hField
          rw [FieldValue.visit_eq_flatMap, List.mem_flatMap]
            at hVisit
          rcases hVisit with
            ⟨⟨shown, nested⟩, hNested, hVisit⟩
          have hInside :=
            FieldValue.mem_rules_of_mem_nested hNested
          have hKept := hGet
          rw [← hRule] at hKept
          rcases exists_member_of_get?_kept check hKept with
            ⟨value, hMember, hValue⟩
          rcases (mem_nested_walkValue_iff check hValue).mp
            hNested with ⟨step, object, hKeeps, hObject⟩
          have hInnerTidy :=
            hKeeps.holdsRule.tidy (hTidy.members _ hMember)
          rcases ih field kept hGet nested hInside hInnerTidy
              hObject hVisit with
            ⟨place, rest, inner, hInner, hPath, hEqual⟩
          have hHas :
              (walkRule check members).kept.has field := by
            rw [Rule.has, hKept]
            rfl
          exact
            ⟨_, _, inner, .nested hMember hHas hKeeps hInner,
              hPath, hEqual⟩
  · rintro ⟨place, shown, inner, hKeeps, hPath, hRule⟩
    induction hKeeps generalizing path with
    | self =>
        rw [Rule.visit_eq_cons, hRule]
        exact List.mem_cons.mpr (Or.inl (Prod.ext hPath rfl))
    | @nested members object _ field value _ _ _ _ hMember
        hField hKeeps _ ih =>
        rcases Option.isSome_iff_exists.mp hField with
          ⟨kept, hKept⟩
        rcases exists_member_of_get?_kept check hKept with
          ⟨other, hOther, hValue⟩
        have hSame : other = value :=
          congrArg Prod.snd
            (eq_of_mem_of_key_eq hTidy.keys hOther hMember rfl)
        subst hSame
        have hNested :=
          (mem_nested_walkValue_iff check hValue).mpr
            ⟨_, object, hKeeps, rfl⟩
        have hInnerTidy :=
          hKeeps.holdsRule.tidy (hTidy.members _ hMember)
        rw [Rule.visit_eq_cons, List.mem_cons,
          List.mem_flatMap]
        have hFields :=
          (Rule.mem_fields_iff _ _ _).mpr hKept
        refine Or.inr ⟨(field, kept), hFields, ?_⟩
        rw [FieldValue.visit_eq_flatMap, List.mem_flatMap]
        exact ⟨_, hNested, ih hInnerTidy hPath hRule⟩

------------------------------------------------------------
-- Findings of Rules That Are Reached
------------------------------------------------------------

/- What is found in a rule is found in the value with it. -/
theorem mem_findings_walkValue
    {field : Field}
    {value : Json.Value}
    {step : Step}
    {members : Json.Object}
    (hHolds : HoldsRule field value step members)
    {finding : Finding}
    (hFinding : finding ∈ (walkRule check members).findings) :
    finding.below step ∈
      (walkValue check field value).findings := by
  cases hHolds with
  | group hKind hEntry =>
      simp only [walkValue, hKind, Walk.map]
      rw [findings_walkCaptures, List.mem_flatMap]
      exact ⟨_, hEntry, List.mem_map_of_mem hFinding⟩
  | item hKind hItem =>
      simp only [walkValue, hKind, Walk.map]
      rw [findings_walkItems, List.mem_flatMap]
      exact ⟨_, hItem, List.mem_map_of_mem hFinding⟩

/- What is found in a rule that is reached is found behind it. -/
theorem mem_findings_of_reaches
    {members rule : Json.Object}
    {place : Place}
    (hReaches : Reaches members place rule)
    {finding : Finding}
    (hFinding : finding ∈ (walkRule check rule).findings) :
    { finding with place := place ++ finding.place } ∈
      (walkRule check members).findings := by
  induction hReaches with
  | self => exact hFinding
  | @nested _ _ _ field value _ _ hMember hHolds _ ih =>
      rw [findings_walkRule, List.mem_append, List.mem_flatMap]
      refine Or.inl ⟨_, hMember, ?_⟩
      have hOwn :
          ownFindings check (field.key, value) =
            (walkValue check field value).findings := by
        simp only [ownFindings, Field.ofKey?_key]
      rw [hOwn]
      exact
        List.mem_map_of_mem
          (mem_findings_walkValue check hHolds (ih hFinding))

end Import

------------------------------------------------------------
-- Documents
------------------------------------------------------------

namespace Document

open Import

/-
  The import of a document reads a rule at the first place of a
  part and keeps it, and it is visited at the second.
-/
inductive Keeps
    (check : Acceptance)
    (document : Document) :
    Root → Place → Place → Json.Object → Prop where
  | entry
      {name : String}
      {members rule : Json.Object}
      {place shown : Place}
      (hEntry : (name, members) ∈ document.repository)
      (hInner : Import.Keeps check members place shown rule) :
      document.Keeps check (.entry name) place shown rule
  | pattern
      {position : Nat}
      {members rule : Json.Object}
      {place shown : Place}
      (hItem : (members, position) ∈ document.patterns.zipIdx)
      (hInner : Import.Keeps check members place shown rule) :
      document.Keeps check (.pattern position) place shown rule

/- All rules that are read stay where they are. -/
def IsSteady
    (document : Document) : Prop :=
  ∀ root place members, document.Reaches root place members →
    ∀ field value, (Field.key field, value) ∈ members →
      InPlace field.kind value

variable {check : Acceptance}
variable {document : Document}

/- A rule that is kept is reached. -/
theorem Keeps.reaches
    {root : Root}
    {place shown : Place}
    {members : Json.Object}
    (hKeeps : document.Keeps check root place shown members) :
    document.Reaches root place members := by
  cases hKeeps with
  | entry hEntry hInner => exact .entry hEntry hInner.reaches
  | pattern hItem hInner => exact .pattern hItem hInner.reaches

/- The rules that are visited are those that are kept. -/
theorem mem_visit_kept_iff
    (hTidy : document.Tidy)
    {visited : String × Rule} :
    visited ∈ (document.kept check).visit ↔
      ∃ root place shown members,
        document.Keeps check root place shown members ∧
          visited.1 = shown.path root.path ∧
          (walkRule check members).kept = visited.2 := by
  have hPatterns :
      (document.kept check).patterns.zipIdx =
        document.patterns.zipIdx.map fun item =>
          ((walkRule check item.1).kept, item.2) :=
    List.zipIdx_map ..
  rw [Grammar.visit, List.mem_append, List.mem_flatMap,
    Rule.visitRules_eq_flatMap, hPatterns, List.flatMap_map,
    List.mem_flatMap]
  constructor
  · rintro (⟨_, hKept, hVisit⟩ | ⟨item, hItem, hVisit⟩)
    · rcases List.mem_map.mp hKept with ⟨entry, hEntry, rfl⟩
      rcases
        (mem_visit_walkRule_iff check
          (hTidy.entries _ hEntry)).mp hVisit with
        ⟨place, shown, members, hKeeps, hShown⟩
      exact
        ⟨.entry entry.1, place, shown, members,
          .entry hEntry hKeeps, hShown⟩
    · have hMember := List.fst_mem_of_mem_zipIdx hItem
      rcases
        (mem_visit_walkRule_iff check
          (hTidy.patterns _ hMember)).mp hVisit with
        ⟨place, shown, members, hKeeps, hShown⟩
      exact
        ⟨.pattern item.2, place, shown, members,
          .pattern hItem hKeeps, hShown⟩
  · rintro ⟨root, place, shown, members, hKeeps, hShown⟩
    cases hKeeps with
    | entry hEntry hInner =>
        refine
          Or.inl ⟨_, List.mem_map.mpr ⟨_, hEntry, rfl⟩, ?_⟩
        exact
          (mem_visit_walkRule_iff check
              (hTidy.entries _ hEntry)).mpr
            ⟨place, shown, members, hInner, hShown⟩
    | pattern hItem hInner =>
        refine Or.inr ⟨_, hItem, ?_⟩
        have hMember := List.fst_mem_of_mem_zipIdx hItem
        exact
          (mem_visit_walkRule_iff check
              (hTidy.patterns _ hMember)).mpr
            ⟨place, shown, members, hInner, hShown⟩

/- A rule is shown where it is read, if all rules stay. -/
theorem Keeps.shown_eq
    {root : Root}
    {place shown : Place}
    {members : Json.Object}
    (hKeeps : document.Keeps check root place shown members)
    (hSteady : document.IsSteady) :
    shown = place := by
  cases hKeeps with
  | entry hEntry hInner =>
      exact
        hInner.shown_eq fun place inner hReaches =>
          hSteady _ place inner (.entry hEntry hReaches)
  | pattern hItem hInner =>
      exact
        hInner.shown_eq fun place inner hReaches =>
          hSteady _ place inner (.pattern hItem hReaches)

/- What is found in a rule that is reached is reported there. -/
theorem mem_reports_of_reaches
    {root : Root}
    {place : Place}
    {members : Json.Object}
    (hReaches : document.Reaches root place members)
    {finding : Finding}
    (hFinding : finding ∈ (walkRule check members).findings) :
    ⟨root, { finding with place := place ++ finding.place }⟩ ∈
      document.reports check := by
  rw [reports, List.mem_append, List.mem_append]
  cases hReaches with
  | entry hEntry hInner =>
      refine Or.inl (List.mem_flatMap.mpr ⟨_, hEntry, ?_⟩)
      exact
        List.mem_map_of_mem
          (mem_findings_of_reaches check hInner hFinding)
  | pattern hItem hInner =>
      refine
        Or.inr (Or.inl (List.mem_flatMap.mpr ⟨_, hItem, ?_⟩))
      exact
        List.mem_map_of_mem
          (mem_findings_of_reaches check hInner hFinding)

/-
  All that the import of a rule reports where the rule is read
  is in the diagnostics of the document.
-/
theorem mem_diagnostics_of_reaches
    (hErrors : document.errors check = [])
    {root : Root}
    {place : Place}
    {members : Json.Object}
    (hReaches : document.Reaches root place members)
    {diagnostic : Diagnostic}
    (hDiagnostic :
      diagnostic ∈
        ((importRule check (place.path root.path) members).start
          .empty).2.diagnostics) :
    diagnostic ∈
      (document.reports check).map Report.diagnostic := by
  have hFollows :=
    importRule_follows check (place.path root.path) members
  have hStart :=
    hFollows.of_errors_eq_nil
      (errors_of_reaches check hErrors hReaches _) .empty
  rw [hStart.2] at hDiagnostic
  rcases List.mem_map.mp hDiagnostic with
    ⟨finding, hFinding, rfl⟩
  refine
    List.mem_map.mpr
      ⟨_, mem_reports_of_reaches hReaches hFinding, ?_⟩
  simp only [Report.diagnostic, Finding.diagnostic, Place.path,
    List.foldl_append]

end Document

------------------------------------------------------------
-- Imported Grammars
------------------------------------------------------------

open Import

/-
  The rules of an imported grammar are visited just where they
  are shown, and each is what the import made of the object at
  its place, with all diagnostics of this object.  If all rules
  of the document stay where they are then a rule is visited at
  the path at which it was read.

  The errors and the warnings of the checks behind the import
  name the paths of visits.
-/
theorem mem_visit_importGrammar_iff
    (check : Acceptance)
    (document : Document)
    (hTidy : document.Tidy)
    (journal : Journal)
    (grammar : Grammar)
    (hRun :
      ((importGrammar check document).start journal).1 =
        .ok grammar) :
    let diagnostics :=
      ((importGrammar check document).start
        journal).2.diagnostics
    (∀ path rule,
      (path, rule) ∈ grammar.visit ↔
        ∃ root place shown members,
          document.Keeps check root place shown members ∧
            path = shown.path root.path ∧
            ((importRule check (place.path root.path)
              members).start .empty).1 = .ok rule) ∧
      (∀ root place shown members,
        document.Keeps check root place shown members →
          (∀ diagnostic ∈
              ((importRule check (place.path root.path)
                members).start .empty).2.diagnostics,
            diagnostic ∈ diagnostics) ∧
          (document.IsSteady → shown = place)) ∧
      (∀ error, grammar.validate = .error error →
        ∃ path rule fault,
          (path, rule) ∈ grammar.visit ∧
            rule.shapeFault? = some fault ∧
            error = .invalidRule path fault.reason) ∧
      ∀ diagnostic,
        diagnostic ∈ grammar.danglingIncludes ↔
          ∃ path rule target,
            (path, rule) ∈ grammar.visit ∧
              Grammar.localTarget? rule = some target ∧
              target ∉ grammar.repository.names ∧
              diagnostic =
                ⟨.warning, Rule.fieldPath path .includeTarget,
                  .danglingInclude target⟩ := by
  intro diagnostics
  rcases (importGrammar_follows check document).of_ok hRun with
    ⟨hErrors, rfl, hDiagnostics⟩
  refine
    ⟨?_, ?_, ?_, Grammar.mem_danglingIncludes_iff _⟩
  · intro path rule
    rw [Document.mem_visit_kept_iff hTidy]
    refine
      exists₄_congr fun root place shown members =>
        and_congr_right fun hKeeps => and_congr_right fun _ => ?_
    rw [Document.start_importRule_of_reaches check hErrors
      hKeeps.reaches, Except.ok.injEq]
  · intro root place shown members hKeeps
    refine ⟨?_, hKeeps.shown_eq⟩
    intro diagnostic hDiagnostic
    rw [show diagnostics = _ from hDiagnostics]
    exact
      List.mem_append_right _
        (Document.mem_diagnostics_of_reaches hErrors
          hKeeps.reaches hDiagnostic)
  · intro error hError
    rcases exists_shapeFault_of_checkShapes hError with
      ⟨⟨path, rule⟩, hVisited, fault, hFault, hText⟩
    exact ⟨path, rule, fault, hVisited, hFault, hText⟩

/-
  The second of two rules for one group is kept, and visited
  under the text of its index.
-/
theorem mem_visit_importGrammar_doubledDocument :
    let check : Acceptance := fun _ => none
    let rule : Rule := { Rule.empty with name := some "second" }
    doubledDocument.Keeps check (.pattern 0)
        [.member "captures", .member "01"]
        [.member "captures", .member "1"]
        [("name", .string "second")] ∧
      ("patterns[0].captures.1", rule) ∈
        (doubledDocument.kept check).visit := by
  intro check rule
  have hRun :
      ((importGrammar check doubledDocument).start
          Journal.empty).1 =
        .ok (doubledDocument.kept check) := by
    rfl
  have hMember :
      (Field.captures.key, .object doubledEntries) ∈
        [("match", Json.Value.string "(a)"),
          ("captures", .object doubledEntries)] :=
    List.mem_cons_of_mem _ List.mem_cons_self
  have hKeepsRule :
      KeepsRule .captures (.object doubledEntries)
        (.member "01") (.member "1")
        [("name", .string "second")] :=
    @KeepsRule.group .captures
      [("1", .object [("name", .string "first")])]
      [("2", .null)] _ _ 1 rfl (by decide) (by decide)
  have hKeeps :
      doubledDocument.Keeps check (.pattern 0)
        [.member "captures", .member "01"]
        [.member "captures", .member "1"]
        [("name", .string "second")] :=
    .pattern List.mem_cons_self
      (.nested hMember rfl hKeepsRule .self)
  have hVisits :=
    mem_visit_importGrammar_iff check doubledDocument
      tidy_doubledDocument Journal.empty _ hRun
  exact
    ⟨hKeeps,
      (hVisits.1 _ _).mpr ⟨_, _, _, _, hKeeps, rfl, rfl⟩⟩

/- A document with a list of null and a rule behind it. -/
def shiftedDocument : Document where
  name := "shifted"
  scopeName := "source.shifted"
  injectionSelector := none
  patterns :=
    [[("patterns",
      .array
        [.null, .object [("include", .string "#missing")]])]]
  repository := []
  extra := []

/- Two rules are read, none of them in place of the null. -/
theorem path_of_reaches_shiftedDocument
    {root : Document.Root}
    {place : Place}
    {members : Json.Object}
    (hReaches : shiftedDocument.Reaches root place members) :
    place.path root.path = "patterns[0]" ∨
      place.path root.path = "patterns[0].patterns[1]" := by
  cases hReaches with
  | entry hEntry _ => cases hEntry
  | pattern hItem hInner =>
      cases List.mem_singleton.mp hItem
      cases hInner with
      | self => exact Or.inl rfl
      | @nested _ _ _ field _ _ _ hMember hHolds hInner =>
          have hField := List.mem_singleton.mp hMember
          rw [Prod.mk.injEq] at hField
          rcases hField with ⟨hKey, rfl⟩
          cases hHolds with
          | item _ hItem =>
              rcases List.mem_cons.mp hItem with hNull | hRule
              · cases hNull
              · cases List.mem_singleton.mp hRule
                cases hInner with
                | self =>
                    rw [hKey]
                    exact Or.inr rfl
                | nested hMember hHolds _ =>
                    have hText :=
                      congrArg Prod.snd
                        (List.mem_singleton.mp hMember)
                    subst hText
                    cases hHolds

/-
  The import reports the null, and the check of the includes
  reports the rule under the path of the null, where no rule was
  read.
-/
theorem shiftedDocument_shows_other_place :
    let check : Acceptance := fun _ => none
    let outcome :=
      (importGrammar check shiftedDocument).start .empty
    shiftedDocument.Tidy ∧
      outcome.1.isOk ∧
      outcome.2.diagnostics.map Diagnostic.path =
        ["patterns[0].patterns[0]"] ∧
      outcome.1.toOption.map
          (fun grammar =>
            grammar.danglingIncludes.map Diagnostic.path) =
        some ["patterns[0].patterns[0].include"] ∧
      shiftedDocument.Reaches (.pattern 0)
        [.member "patterns", .item 1]
        [("include", .string "#missing")] ∧
      ∀ root place members,
        shiftedDocument.Reaches root place members →
          place.path root.path ≠ "patterns[0].patterns[0]" := by
  intro check outcome
  have hReaches :
      shiftedDocument.Reaches (.pattern 0)
        [.member Field.patterns.key, .item 1]
        [("include", .string "#missing")] :=
    .pattern List.mem_cons_self
      (.nested List.mem_cons_self
        (.item rfl (List.mem_cons_of_mem _ List.mem_cons_self))
        .self)
  refine
    ⟨by decide, by decide, by decide +kernel,
      by decide +kernel, hReaches, ?_⟩
  intro root place members hOther hPath
  rcases path_of_reaches_shiftedDocument hOther with
    hOuter | hInner
  · exact absurd (hOuter.symm.trans hPath) (by decide)
  · exact absurd (hInner.symm.trans hPath) (by decide)

end TextMate
