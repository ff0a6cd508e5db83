import TextMate.Proofs.Import.Loss

/-
  This file proves what the errors of an import tell about the
  grammar: they say that a node of the document is missing, but
  not every node that is missing is an error.

  Two kinds of nodes are overlooked.  A member of a rule whose
  key names no field is dropped with a warning, and a captures
  entry is replaced without a report if a later key names its
  group.  All other nodes that are missing are errors.

  Main declarations:
    * `Document.Overlooks`
    * `Document.exists_error_of_lacks`
    * `Document.exists_lacks_of_error`
    * `hasErrors_importGrammar`
-/

namespace TextMate

------------------------------------------------------------
-- Errors of Documents
------------------------------------------------------------

namespace Document

open Import

/-
  A part of a document is overlooked: a member of a rule whose
  key names no field, or a captures entry whose group is named
  again by a later one and whose own import has no error.
-/
inductive Overlooks
    (check : Acceptance)
    (document : Document)
    (grammar : Grammar) : Root → Place → Prop where
  | unnamed
      {root : Root}
      {place own : Place}
      {members : Json.Object}
      {rule : Rule}
      (hStands :
        document.Stands grammar root place members rule)
      (hPart : HasPart members own)
      (hUnnamed : IsUnnamed own) :
      document.Overlooks check grammar root (place ++ own)
  | replaced
      {root : Root}
      {place own : Place}
      {members object : Json.Object}
      {rule : Rule}
      (hStands :
        document.Stands grammar root place members rule)
      (hReplaced : Replaced members own object)
      (hClean :
        ∀ path,
          hasErrors
              ((importRule check path object).start
                .empty).2.diagnostics =
            false) :
      document.Overlooks check grammar root (place ++ own)

variable (check : Acceptance)
variable {document : Document}

/- A rule that stands for an object is what is kept of it. -/
theorem Stands.kept_eq
    (hTidy : document.Tidy)
    (hNames : (document.repository.map Prod.fst).Nodup)
    {root : Root}
    {place : Place}
    {members : Json.Object}
    {rule : Rule}
    (hStands :
      document.Stands (document.kept check) root place members
        rule) :
    (walkRule check members).kept = rule := by
  cases hStands with
  | entry hEntry hRule hInner =>
      rcases List.mem_map.mp hRule with
        ⟨⟨_, other⟩, hOther, hSame⟩
      cases hSame
      cases eq_of_mem_of_key_eq hNames hEntry hOther rfl
      exact hInner.kept_eq check (hTidy.entries _ hEntry)
  | pattern hItem hRule hInner =>
      have hMember := List.fst_mem_of_mem_zipIdx hItem
      rw [List.mk_mem_zipIdx_iff_getElem?] at hItem hRule
      rw [kept, List.getElem?_map, hItem] at hRule
      cases hRule
      exact hInner.kept_eq check (hTidy.patterns _ hMember)

/- An entry that is replaced is imported like any rule. -/
theorem hasErrors_of_replaced
    (hErrors : document.errors check = [])
    {root : Root}
    {place own : Place}
    {members object : Json.Object}
    (hReaches : document.Reaches root place members)
    (hReplaced : Replaced members own object)
    (path : String) :
    hasErrors
          ((importRule check path object).start
            .empty).2.diagnostics =
        true ↔
      (walkRule check object).HasErrors := by
  have hOuter := errors_of_reaches check hErrors hReaches path
  exact
    hasErrors_importRule_iff check
      (Import.errors_of_reaches check hReplaced.reaches hOuter
        path)

/-
  An error of a document is in an entry or a root rule, or says
  that a root field cannot be kept.
-/
theorem exists_of_error
    {report : Report}
    (hReport : report ∈ document.reports check)
    (hError : report.finding.severity = .error) :
    (∃ root members, document.Reaches root [] members ∧
        (walkRule check members).HasErrors) ∨
      ∃ field ∈ document.extra, extraValue? field.2 = none := by
  rw [reports, List.mem_append, List.mem_append] at hReport
  rcases hReport with hEntries | hPatterns | hExtra
  · rcases List.mem_flatMap.mp hEntries with
      ⟨entry, hEntry, hFound⟩
    rcases List.mem_map.mp hFound with ⟨finding, hFinding, rfl⟩
    exact
      Or.inl
        ⟨_, _, .entry hEntry .self, finding, hFinding, hError⟩
  · rcases List.mem_flatMap.mp hPatterns with
      ⟨item, hItem, hFound⟩
    rcases List.mem_map.mp hFound with ⟨finding, hFinding, rfl⟩
    exact
      Or.inl
        ⟨_, _, .pattern hItem .self, finding, hFinding, hError⟩
  · rcases List.mem_flatMap.mp hExtra with
      ⟨field, hField, hFound⟩
    rcases List.mem_map.mp hFound with ⟨finding, hFinding, rfl⟩
    refine Or.inr ⟨field, hField, ?_⟩
    cases hValue : extraValue? field.2 with
    | none => rfl
    | some kept =>
        rw [hValue] at hFinding
        cases List.mem_singleton.mp hFinding
        cases hError

/- A root field that cannot be kept is an error. -/
theorem error_of_extra
    {field : String × Json.Value}
    (hField : field ∈ document.extra)
    (hNone : extraValue? field.2 = none) :
    ⟨.extra field.1, unkeepable⟩ ∈ document.reports check := by
  rw [reports, List.mem_append, List.mem_append]
  refine Or.inr (Or.inr ?_)
  refine List.mem_flatMap.mpr ⟨field, hField, ?_⟩
  rw [extraReports, hNone]
  exact List.mem_cons_of_mem _ List.mem_cons_self

/- The rule that is kept of a root rule has its position. -/
theorem mem_zipIdx_patterns_kept
    {members : Json.Object}
    {position : Nat}
    (hItem : (members, position) ∈ document.patterns.zipIdx) :
    ((walkRule check members).kept, position) ∈
      (document.kept check).patterns.zipIdx := by
  rw [List.mk_mem_zipIdx_iff_getElem?] at hItem ⊢
  rw [kept, List.getElem?_map, hItem]
  rfl

/- The rules for entries and root rules are in the grammar. -/
theorem stands_of_reaches
    {root : Root}
    {place : Place}
    {members object : Json.Object}
    {part : Rule}
    (hReaches : document.Reaches root [] members)
    (hStands :
      Import.Stands members (walkRule check members).kept place
        object part) :
    document.Stands (document.kept check) root place object
      part := by
  cases hReaches with
  | entry hEntry hInner =>
      cases hInner
      exact .entry hEntry (List.mem_map_of_mem hEntry) hStands
  | pattern hItem hInner =>
      cases hInner
      exact
        .pattern hItem (mem_zipIdx_patterns_kept check hItem)
          hStands

/- A root field is missing just if it cannot be kept. -/
theorem forall_not_mem_extra_iff
    (hTidy : document.Tidy)
    {key : String}
    {value : Json.Value}
    (hField : (key, value) ∈ document.extra) :
    (∀ kept, (key, kept) ∉ (document.kept check).extra) ↔
      extraValue? value = none := by
  rw [Option.eq_none_iff_forall_not_mem]
  refine forall_congr' fun kept => not_congr ?_
  rw [Document.kept, List.mem_filterMap]
  constructor
  · rintro ⟨⟨_, other⟩, hOther, hKept⟩
    rcases Option.map_eq_some_iff.mp hKept with
      ⟨_, hValue, hSame⟩
    cases hSame
    cases eq_of_mem_of_key_eq hTidy.extra.keys hField hOther rfl
    exact hValue
  · intro hValue
    refine ⟨_, hField, ?_⟩
    exact Option.map_eq_some_iff.mpr ⟨_, hValue, rfl⟩

/- No entry and no root rule is missing. -/
theorem Lacks.extra_or_part
    (hTidy : document.Tidy)
    {root : Root}
    {place : Place}
    (hLacks : document.Lacks (document.kept check) root place) :
    (∃ field ∈ document.extra, extraValue? field.2 = none) ∨
      ∃ before own members rule,
        document.Stands (document.kept check) root before
            members rule ∧
          Import.Lacks members rule own ∧
          place = before ++ own := by
  cases hLacks with
  | entry hEntry hNone =>
      exact absurd (List.mem_map_of_mem hEntry) (hNone _)
  | pattern hItem hNone =>
      exact
        absurd (mem_zipIdx_patterns_kept check hItem) (hNone _)
  | extra hField hNone =>
      rw [forall_not_mem_extra_iff check hTidy hField] at hNone
      exact Or.inl ⟨_, hField, hNone⟩
  | part hStands hLacks =>
      exact Or.inr ⟨_, _, _, _, hStands, hLacks, rfl⟩

/- A node that is missing is overlooked or there is an error. -/
theorem exists_error_of_lacks
    (hTidy : document.Tidy)
    (hErrors : document.errors check = [])
    {root : Root}
    {place : Place}
    (hLacks : document.Lacks (document.kept check) root place)
    (hNot :
      ¬document.Overlooks check (document.kept check) root
        place) :
    ∃ report ∈ document.reports check,
      report.finding.severity = .error := by
  rcases hLacks.extra_or_part check hTidy with
    ⟨field, hField, hNone⟩ |
      ⟨before, own, members, rule, hStands, hPart, rfl⟩
  · exact ⟨_, error_of_extra check hField hNone, rfl⟩
  · have hNames := nodup_names_of_errors hErrors
    have hReaches := hStands.reaches
    have hMembers := hReaches.tidy hTidy
    have hLoses : Loses check members rule own := by
      refine ⟨hPart, ?_, ?_⟩
      · exact fun hUnnamed =>
          hNot (.unnamed hStands hPart.1 hUnnamed)
      · intro object hReplaced
        by_contra hNone
        refine hNot (.replaced hStands hReplaced ?_)
        intro path
        rw [← Bool.not_eq_true,
          hasErrors_of_replaced check hErrors hReaches
            hReplaced]
        exact hNone
    rw [← hStands.kept_eq check hTidy hNames] at hLoses
    rcases
      hasErrors_of_loses check hMembers
        (errors_of_reaches check hErrors hReaches "") hLoses
      with ⟨finding, hFinding, hError⟩
    exact ⟨_, mem_reports_of_reaches hReaches hFinding, hError⟩

/- An error says that a node is missing. -/
theorem exists_lacks_of_error
    (hTidy : document.Tidy)
    (hErrors : document.errors check = [])
    {report : Report}
    (hReport : report ∈ document.reports check)
    (hError : report.finding.severity = .error) :
    ∃ root place,
      document.Lacks (document.kept check) root place ∧
        ¬document.Overlooks check (document.kept check) root
          place := by
  rcases exists_of_error check hReport hError with
    ⟨root, members, hRoot, hRule⟩ | ⟨field, hField, hNone⟩
  · rw [hasErrors_iff_exists_loses check (hRoot.tidy hTidy)
      (errors_of_reaches check hErrors hRoot "")] at hRule
    rcases hRule with
      ⟨place, object, part, own, hInner, hLoses⟩
    have hStands := stands_of_reaches check hRoot hInner
    refine ⟨root, _, .part hStands hLoses.1, ?_⟩
    intro hOverlooks
    generalize hPlace : place ++ own = far at hOverlooks
    have hNames := nodup_names_of_errors hErrors
    have hReaches := hStands.reaches
    cases hOverlooks with
    | unnamed hOther hPart hUnnamed =>
        rcases
          hReaches.unique hTidy hNames hOther.reaches
            hLoses.1.1 hPart hPlace with ⟨rfl, rfl, rfl⟩
        exact hLoses.2.1 hUnnamed
    | replaced hOther hReplaced hClean =>
        rcases
          hReaches.unique hTidy hNames hOther.reaches
            hLoses.1.1 hReplaced.hasPart hPlace with
          ⟨rfl, rfl, rfl⟩
        have hFound := hLoses.2.2 _ hReplaced
        rw [← hasErrors_of_replaced check hErrors hReaches
          hReplaced "", hClean] at hFound
        cases hFound
  · refine ⟨.extra field.1, [], .extra hField ?_, ?_⟩
    · rw [forall_not_mem_extra_iff check hTidy hField]
      exact hNone
    · intro hOverlooks
      generalize hPlace : ([] : Place) = place at hOverlooks
      cases hOverlooks with
      | unnamed hStands => cases hStands
      | replaced hStands => cases hStands

/- What is overlooked is missing. -/
theorem Overlooks.lacks
    (hTidy : document.Tidy)
    {grammar : Grammar}
    {root : Root}
    {place : Place}
    (hOverlooks :
      document.Overlooks check grammar root place) :
    document.Lacks grammar root place := by
  cases hOverlooks with
  | unnamed hStands hPart hUnnamed =>
      exact .part hStands (lacks_of_isUnnamed hPart hUnnamed)
  | replaced hStands hReplaced _ =>
      have hMembers := hStands.reaches.tidy hTidy
      exact .part hStands (lacks_of_replaced hMembers hReplaced)

end Document

open Import

/-
  If an import succeeds then there are errors just if a node of
  the document is missing from the grammar that is not
  overlooked, and what is overlooked is missing as well.  The
  root fields that are modelled are never missing.
-/
theorem hasErrors_importGrammar
    (check : Acceptance)
    (document : Document)
    (hTidy : document.Tidy)
    (grammar : Grammar)
    (hRun :
      ((importGrammar check document).start .empty).1 =
        .ok grammar) :
    let journal :=
      ((importGrammar check document).start .empty).2
    (grammar.name = document.name ∧
        grammar.scopeName = document.scopeName ∧
        grammar.injectionSelector =
          document.injectionSelector) ∧
      (hasErrors journal.diagnostics = true ↔
        ∃ root place, document.Lacks grammar root place ∧
          ¬document.Overlooks check grammar root place) ∧
      ∀ root place,
        document.Overlooks check grammar root place →
          document.Lacks grammar root place := by
  intro journal
  rcases (importGrammar_follows check document).of_ok hRun with
    ⟨hErrors, rfl, hDiagnostics⟩
  have hFlag :
      hasErrors journal.diagnostics = true ↔
        ∃ report ∈ document.reports check,
          report.finding.severity = .error := by
    rw [hDiagnostics]
    exact hasErrors_map_iff fun _ => rfl
  refine ⟨⟨rfl, rfl, rfl⟩, ?_, ?_⟩
  · rw [hFlag]
    constructor
    · rintro ⟨report, hReport, hError⟩
      exact
        Document.exists_lacks_of_error check hTidy hErrors
          hReport hError
    · rintro ⟨root, place, hLacks, hNot⟩
      exact
        Document.exists_error_of_lacks check hTidy hErrors
          hLacks hNot
  · exact fun root place hOverlooks =>
      hOverlooks.lacks check hTidy

/-
  A rule whose name is null, with captures of which the second
  names the group of the first again.
-/
def mislaidMembers : Json.Object :=
  [("captures",
      .object
        [("1", .object [("name", .string "first")]),
          ("01", .object [("name", .string "second")])]),
    ("name", .null)]

/- A document with this rule. -/
def mislaidDocument : Document where
  name := "mislaid"
  scopeName := "source.mislaid"
  injectionSelector := none
  patterns := [mislaidMembers]
  repository := []
  extra := []

/- The first entry is overlooked. -/
theorem overlooks_mislaidDocument :
    let check : Acceptance := fun _ => none
    mislaidDocument.Overlooks check
      (mislaidDocument.kept check) (.pattern 0)
      [.member "captures", .member "1"] := by
  intro check
  have hStands :
      mislaidDocument.Stands (mislaidDocument.kept check)
        (.pattern 0) [] mislaidMembers
        (walkRule check mislaidMembers).kept :=
    Document.stands_of_reaches check
      (.pattern List.mem_cons_self .self) .self
  have hReplaces :
      ReplacesRule .captures
        (.object
          ([] ++
            ("1", Json.Value.object [("name", .string "first")]) ::
              [("01",
                Json.Value.object [("name", .string "second")])]))
        (.member "1") [("name", .string "first")] :=
    .group rfl (by decide : groupIndex? "1" = some 1)
      (by decide)
  have hReplaced :
      Replaced mislaidMembers
        [.member Field.captures.key, .member "1"]
        [("name", .string "first")] :=
    .intro List.mem_cons_self hReplaces
  refine .replaced hStands hReplaced ?_
  intro path
  rfl

/- The name is an error, and the first entry is missing too. -/
theorem hasErrors_importGrammar_mislaidDocument :
    let check : Acceptance := fun _ => none
    let outcome :=
      (importGrammar check mislaidDocument).start .empty
    let grammar := mislaidDocument.kept check
    mislaidDocument.Tidy ∧ outcome.1 = .ok grammar ∧
      (∃ root place, mislaidDocument.Lacks grammar root place ∧
        ¬mislaidDocument.Overlooks check grammar root place) ∧
      mislaidDocument.Lacks grammar (.pattern 0)
        [.member "captures", .member "1"] := by
  intro check outcome grammar
  have hTidy : mislaidDocument.Tidy := by decide
  have hRun : outcome.1 = .ok grammar := by
    rfl
  have hFlag : hasErrors outcome.2.diagnostics = true := by
    decide +kernel
  rcases
    hasErrors_importGrammar check mislaidDocument hTidy grammar
      hRun
    with ⟨-, hErrors, hLacks⟩
  exact
    ⟨hTidy, hRun, hErrors.mp hFlag,
      hLacks _ _ overlooks_mislaidDocument⟩

/- A rule with a comment, which names no field. -/
def notedMembers : Json.Object :=
  [("comment", .string "digits"), ("match", .string "[0-9]+")]

/- A document with this rule. -/
def notedDocument : Document where
  name := "noted"
  scopeName := "source.noted"
  injectionSelector := none
  patterns := [notedMembers]
  repository := []
  extra := []

/- The comment is missing, but there is no error. -/
theorem notedDocument_loses_comment :
    let check : Acceptance := fun _ => none
    let outcome :=
      (importGrammar check notedDocument).start .empty
    let grammar := notedDocument.kept check
    notedDocument.Tidy ∧ outcome.1 = .ok grammar ∧
      notedDocument.Lacks grammar (.pattern 0)
        [.member "comment"] ∧
      hasErrors outcome.2.diagnostics = false ∧
      ¬(hasErrors outcome.2.diagnostics = true ↔
        ∃ root place,
          notedDocument.Lacks grammar root place) := by
  intro check outcome grammar
  have hTidy : notedDocument.Tidy := by decide
  have hStands :
      notedDocument.Stands grammar (.pattern 0) [] notedMembers
        (walkRule check notedMembers).kept :=
    Document.stands_of_reaches check
      (.pattern List.mem_cons_self .self) .self
  have hPart : HasPart notedMembers [.member "comment"] :=
    .member List.mem_cons_self
  have hUnnamed : IsUnnamed [.member "comment"] :=
    ⟨"comment", rfl, by decide⟩
  have hLacks :
      notedDocument.Lacks grammar (.pattern 0)
        [.member "comment"] :=
    .part hStands (lacks_of_isUnnamed hPart hUnnamed)
  have hFlag : hasErrors outcome.2.diagnostics = false := by
    decide +kernel
  refine ⟨hTidy, rfl, hLacks, hFlag, ?_⟩
  intro hBoth
  have hTrue := hBoth.mpr ⟨_, _, hLacks⟩
  cases hFlag.symm.trans hTrue

end TextMate
