import TextMate.Proofs.Grammar.Site
import TextMate.Proofs.Import.Describes

/-
  This file describes the import of a whole document as walks
  over its repository entries, its root rules and its other
  fields, in this order.

  Main declarations:
    * `Document.Root`
    * `Document.Report`
    * `Document.reports`
    * `Document.errors`
    * `Document.kept`
    * `importGrammar_follows`
-/

namespace TextMate

open Import

namespace Document

------------------------------------------------------------
-- Places of Documents
------------------------------------------------------------

/- A part of a document over which there is a walk. -/
inductive Root where
  | entry (name : String)
  | pattern (position : Nat)
  | extra (key : String)
deriving DecidableEq

/- The path of a part of a document. -/
def Root.path : Root → String
  | .entry name => Grammar.entryPath name
  | .pattern position =>
      Rule.itemPath Grammar.rootPath position
  | .extra key => key

/- What is found at a place of a part of a document. -/
structure Report where
  root : Root
  finding : Import.Finding
deriving DecidableEq

/- The diagnostic for a report. -/
def Report.diagnostic
    (report : Report) : Diagnostic :=
  report.finding.diagnostic report.root.path

/- The reports of what is found in a part of a document. -/
def reportsAt
    (root : Root)
    (findings : List Import.Finding) : List Report :=
  findings.map fun finding => ⟨root, finding⟩

theorem diagnostics_reportsAt
    {α : Type}
    (root : Root)
    (walk : Walk α) :
    (reportsAt root walk.findings).map Report.diagnostic =
      walk.diagnostics root.path :=
  List.map_map

------------------------------------------------------------
-- Walks over Documents
------------------------------------------------------------

/- What is found in a repository entry. -/
def entryReports
    (check : Acceptance)
    (entry : String × Json.Object) : List Report :=
  reportsAt (.entry entry.1)
    (walkRule check entry.2).findings

/- What is found in a root rule at a position. -/
def patternReports
    (check : Acceptance)
    (item : Json.Object × Nat) : List Report :=
  reportsAt (.pattern item.2)
    (walkRule check item.1).findings

/- A root field that is not modelled. -/
def unrecognized : Import.Finding :=
  ⟨[], .warning, .unrecognizedField⟩

/- A root field whose value cannot be kept as it is. -/
def unkeepable : Import.Finding :=
  ⟨[], .error,
    .unexpectedValue "a string or an array of strings"⟩

/- What is found at a root field that is not modelled. -/
def extraReports
    (field : String × Json.Value) : List Report :=
  reportsAt (.extra field.1)
    (unrecognized ::
      match extraValue? field.2 with
      | some _ => []
      | none => [unkeepable])

/- What is found in a document. -/
def reports
    (check : Acceptance)
    (document : Document) : List Report :=
  document.repository.flatMap (entryReports check) ++
    (document.patterns.zipIdx.flatMap
        (patternReports check) ++
      document.extra.flatMap extraReports)

/- A root field that is kept. -/
def keptExtra?
    (field : String × Json.Value) :
    Option (String × ExtraValue) :=
  (extraValue? field.2).map fun value => (field.1, value)

/- What is kept of a document. -/
def kept
    (check : Acceptance)
    (document : Document) : Grammar where
  name := document.name
  scopeName := document.scopeName
  injectionSelector := document.injectionSelector
  patterns :=
    document.patterns.map fun members =>
      (walkRule check members).kept
  repository :=
    ⟨document.repository.map fun entry =>
      (entry.1, (walkRule check entry.2).kept)⟩
  extra := document.extra.filterMap keptExtra?

------------------------------------------------------------
-- Errors of Documents
------------------------------------------------------------

/- The errors in a repository, where some names are taken. -/
def entryErrors
    (check : Acceptance)
    (taken : List String) :
    List (String × Json.Object) → List Error
  | [] => []
  | (name, members) :: rest =>
      (if name ∈ taken then [.repositoryCollision name]
        else []) ++
        ((walkRule check members).errors
            (Grammar.entryPath name) ++
          entryErrors check (taken ++ [name]) rest)

/- The errors in a root rule at a position. -/
def patternErrors
    (check : Acceptance)
    (item : Json.Object × Nat) : List Error :=
  (walkRule check item.1).errors (Root.pattern item.2).path

/- The errors that stop an import, in walking order. -/
def errors
    (check : Acceptance)
    (document : Document) : List Error :=
  entryErrors check [] document.repository ++
    document.patterns.zipIdx.flatMap (patternErrors check)

end Document

------------------------------------------------------------
-- Imports as Walks
------------------------------------------------------------

namespace Import

open Document

theorem importEntries_follows
    (check : Acceptance)
    (entries : List (String × Json.Object))
    (repository : Repository) :
    (importEntries check repository entries).Follows
      (entryErrors check repository.names entries)
      ⟨repository.entries ++ entries.map fun entry =>
        (entry.1, (walkRule check entry.2).kept)⟩
      ((entries.flatMap (entryReports check)).map
        Report.diagnostic) := by
  induction entries generalizing repository with
  | nil =>
      rw [List.map_nil, List.append_nil]
      exact .pure _
  | cons entry rest ih =>
      rcases entry with ⟨name, members⟩
      rw [importEntries, entryErrors]
      by_cases hTaken : repository.contains name
      · have hName := (repository.contains_iff name).mp hTaken
        rw [if_pos hTaken, if_pos hName]
        exact .throw_bind _ _ _ _ _
      · have hName := mt (repository.contains_iff name).mpr hTaken
        rw [if_neg hTaken, if_neg hName, List.nil_append]
        have hInsert :
            ∀ rule, repository.insert name rule =
              .ok ⟨repository.entries ++ [(name, rule)]⟩ := by
          intro rule
          exact Repository.insert_of_not_mem hName rule
        have hRule :=
          importRule_follows check (Grammar.entryPath name)
            members
        have hRest :=
          ih ⟨repository.entries ++
            [(name, (walkRule check members).kept)]⟩
        have hNames :
            Repository.names
                ⟨repository.entries ++
                  [(name, (walkRule check members).kept)]⟩ =
              repository.names ++ [name] :=
          List.map_append
        rw [hNames, List.append_assoc] at hRest
        rw [List.flatMap_cons, List.map_append,
          entryReports, diagnostics_reportsAt]
        refine Run.Follows.bind hRule ?_
        simp only [hInsert]
        refine Run.Follows.bind (.lift _) ?_
        exact (Run.Follows.note _ _).bind hRest

theorem importPatterns_follows
    (check : Acceptance)
    (patterns : List Json.Object)
    (position : Nat) :
    (importPatterns check position patterns).Follows
      ((patterns.zipIdx position).flatMap
        (patternErrors check))
      (patterns.map fun members =>
        (walkRule check members).kept)
      (((patterns.zipIdx position).flatMap
        (patternReports check)).map Report.diagnostic) := by
  induction patterns generalizing position with
  | nil => exact .pure _
  | cons members rest ih =>
      have hRule :=
        importRule_follows check (Root.pattern position).path
          members
      have hRest := (ih (position + 1)).map
        fun rules => (walkRule check members).kept :: rules
      rw [importPatterns, List.zipIdx_cons,
        List.flatMap_cons, List.flatMap_cons, List.map_append,
        patternReports, diagnostics_reportsAt]
      exact Run.Follows.bind hRule hRest

theorem importExtra_follows
    (extra : Json.Object) :
    (importExtra extra).Follows []
      (extra.filterMap keptExtra?)
      ((extra.flatMap extraReports).map
        Report.diagnostic) := by
  induction extra with
  | nil => exact .pure _
  | cons field rest ih =>
      rcases field with ⟨key, value⟩
      rw [importExtra, List.flatMap_cons, List.map_append,
        extraReports]
      cases hValue : extraValue? value with
      | some kept =>
          rw [List.filterMap_cons_some
            (by simp [keptExtra?, hValue]; rfl)]
          exact (Run.Follows.report _ _ _).bind
            (ih.map fun others => (key, kept) :: others)
      | none =>
          rw [List.filterMap_cons_none
            (by simp [keptExtra?, hValue])]
          exact (Run.Follows.report _ _ _).bind
            ((Run.Follows.report _ _ _).bind ih)

end Import

/-
  An import stops at the first error of the document.  If
  there is none then it keeps what the walk keeps and reports
  what the walk finds.
-/
theorem importGrammar_follows
    (check : Acceptance)
    (document : Document) :
    (importGrammar check document).Follows
      (document.errors check) (document.kept check)
      ((document.reports check).map
        Document.Report.diagnostic) := by
  have hEntries :=
    importEntries_follows check document.repository .empty
  have hPatterns :=
    importPatterns_follows check document.patterns 0
  have hExtra := importExtra_follows document.extra
  rw [Document.reports, List.map_append, List.map_append,
    Document.errors,
    ← List.append_nil
      (document.patterns.zipIdx.flatMap
        (Document.patternErrors check))]
  refine hEntries.bind (hPatterns.bind ?_)
  exact hExtra.map _

end TextMate
