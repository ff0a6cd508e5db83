import TextMate.Import
import TextMate.Proofs.Grammar.Include

/-
  This file proves that a run never reads the journal that it
  writes to: it gives the same result on any journal, and what
  it adds is what it writes to an empty one.  Its warnings and
  errors in the log are those of its diagnostics.

  Main declarations:
    * `Journal.append`
    * `Journal.IsReported`
    * `Run.Appends`
    * `Run.Appends.bind`
    * `importMembers_appends`
    * `importGrammar_appends`
    * `Grammar.reportDangling_appends`
    * `journal_append_only`
-/

namespace TextMate

------------------------------------------------------------
-- Journals
------------------------------------------------------------

/- The record is a warning or an error. -/
def LogRecord.isReport
    (record : LogRecord) : Bool :=
  record.level == .warn || record.level == .error

/- Every diagnostic is logged as a warning or an error. -/
theorem Diagnostic.isReport_record
    (diagnostic : Diagnostic) :
    diagnostic.record.isReport = true := by
  rcases diagnostic with ⟨_ | _, _, _⟩ <;> rfl

namespace Journal

/- A journal, and what is written behind it. -/
def append
    (journal more : Journal) : Journal :=
  ⟨journal.diagnostics ++ more.diagnostics,
    journal.log ++ more.log⟩

@[simp] theorem append_empty
    (journal : Journal) :
    journal.append .empty = journal := by
  simp [append, empty]

@[simp] theorem empty_append
    (journal : Journal) :
    Journal.empty.append journal = journal := by
  simp [append, empty]

theorem append_assoc
    (first second third : Journal) :
    (first.append second).append third =
      first.append (second.append third) := by
  simp [append]

/- The warnings and errors in the log are the texts of the
  diagnostics, in order. -/
def IsReported
    (journal : Journal) : Prop :=
  journal.log.filter LogRecord.isReport =
    journal.diagnostics.map Diagnostic.record

theorem isReported_empty : IsReported .empty := rfl

theorem IsReported.append
    {first second : Journal}
    (hFirst : first.IsReported)
    (hSecond : second.IsReported) :
    (first.append second).IsReported := by
  unfold IsReported at hFirst hSecond ⊢
  rw [Journal.append, List.filter_append, hFirst, hSecond,
    List.map_append]

end Journal

------------------------------------------------------------
-- Runs
------------------------------------------------------------

namespace Run

variable {α β : Type}

/-
  The run gives on every journal the result that it gives on an
  empty one, and adds what it writes there, in which the
  diagnostics are reported to the log.
-/
structure Appends
    (run : Run α) : Prop where
  start_eq :
    ∀ journal,
      run.start journal =
        ((run.start .empty).1,
          journal.append (run.start .empty).2)
  reported : (run.start .empty).2.IsReported

namespace Appends

/- A run appends if it adds the same on every journal. -/
theorem of_forall
    {run : Run α}
    (result : Except Error α)
    (more : Journal)
    (hStart :
      ∀ journal,
        run.start journal = (result, journal.append more))
    (hMore : more.IsReported) :
    run.Appends := by
  have hEmpty := hStart .empty
  rw [Journal.empty_append] at hEmpty
  constructor
  · intro journal
    rw [hEmpty, hStart journal]
  · rw [hEmpty]
    exact hMore

theorem pure
    (value : α) :
    Appends (Pure.pure value) := by
  refine
    of_forall (.ok value) .empty ?_ Journal.isReported_empty
  intro journal
  rw [Journal.append_empty]
  rfl

theorem throw
    (error : Error) :
    Appends (throwThe Error error : Run α) := by
  refine
    of_forall (.error error) .empty ?_ Journal.isReported_empty
  intro journal
  rw [Journal.append_empty]
  rfl

theorem lift
    (result : Except Error α) :
    Appends (liftM result : Run α) := by
  cases result with
  | error error => exact throw error
  | ok value => exact pure value

theorem report
    (severity : Severity)
    (path : String)
    (kind : DiagnosticKind) :
    Appends (Run.report severity path kind) := by
  let diagnostic : Diagnostic := ⟨severity, path, kind⟩
  refine
    of_forall (.ok ()) ⟨[diagnostic], [diagnostic.record]⟩
      (fun journal => rfl) ?_
  simp [Journal.IsReported, Diagnostic.isReport_record]

/- A note that is neither a warning nor an error adds to the
  log alone. -/
theorem note
    {level : LogLevel}
    {text : String}
    (hLevel : (LogRecord.mk level text).isReport = false) :
    Appends (Run.note level text) := by
  refine of_forall (.ok ()) ⟨[], [⟨level, text⟩]⟩ ?_ ?_
  · intro journal
    rw [Journal.append, List.append_nil]
    rfl
  · simp [Journal.IsReported, hLevel]

/- Runs in sequence append what they do one after the other. -/
theorem bind
    {first : Run α}
    {next : α → Run β}
    (hFirst : first.Appends)
    (hNext : ∀ value, (next value).Appends) :
    (first >>= next).Appends := by
  have hStart := hFirst.start_eq
  have hReported := hFirst.reported
  rcases hOutcome : first.start .empty with
    ⟨error | value, written⟩
  · rw [hOutcome] at hStart hReported
    refine
      of_forall (.error error) written (fun journal => ?_)
        hReported
    rw [start_bind, hStart journal]
  · rw [hOutcome] at hStart hReported
    refine
      of_forall ((next value).start .empty).1
        (written.append ((next value).start .empty).2)
        (fun journal => ?_)
        (hReported.append (hNext value).reported)
    rw [start_bind, hStart journal]
    dsimp only
    rw [(hNext value).start_eq, Journal.append_assoc]

end Appends

end Run

------------------------------------------------------------
-- Imports
------------------------------------------------------------

namespace Import

open Run (Appends)

theorem dropValue_appends
    {α : Type}
    (path expected : String) :
    (dropValue path expected : Run (Option α)).Appends :=
  (Appends.report _ _ _).bind fun _ => .pure _

theorem importText_appends
    (check : Acceptance)
    (path : String)
    (field : Field)
    (text : String) :
    (importText check path field text).Appends := by
  unfold importText importPattern
  cases field.kind with
  | label => exact .pure _
  | captures => exact dropValue_appends path _
  | children => exact dropValue_appends path _
  | pattern =>
      dsimp only
      split
      · split
        · exact (Appends.report _ _ _).bind fun _ => .pure _
        · exact .pure _
      · exact .pure _

theorem dropScalar_appends
    (path : String)
    (field : Field) :
    (dropScalar path field).Appends := by
  unfold dropScalar
  cases field.kind <;> exact dropValue_appends path _

theorem reportUnpaired_appends
    (path : String)
    (fields : List Field) :
    (reportUnpaired path fields).Appends := by
  induction fields with
  | nil => exact .pure _
  | cons field rest ih =>
      exact (Appends.report _ _ _).bind fun _ => ih

theorem settle_appends
    (path : String)
    (rule : Rule)
    (hasLost : Bool) :
    (settle path rule hasLost).Appends := by
  unfold settle
  split
  · exact (reportUnpaired_appends path _).bind fun _ => .pure _
  · exact .pure _

mutual

theorem importMembers_appends
    (check : Acceptance) :
    ∀ (members : List (String × Json.Value))
      (path : String)
      (rule : Rule)
      (hasLost : Bool),
      (importMembers check path rule hasLost members).Appends
  | [], path, rule, hasLost => .pure _
  | (key, value) :: rest, path, rule, hasLost => by
      have hRest := importMembers_appends check rest path
      rw [importMembers]
      split
      · exact (Appends.report _ _ _).bind fun _ => hRest _ _
      · rename_i field hField
        refine
          (importValue_appends check value (memberPath path key)
            field).bind fun imported? => ?_
        cases imported? with
        | some imported => exact hRest _ _
        | none => exact hRest _ _

theorem importValue_appends
    (check : Acceptance) :
    ∀ (value : Json.Value)
      (path : String)
      (field : Field),
      (importValue check path field value).Appends
  | .null, path, field => dropScalar_appends path field
  | .bool _, path, field => dropScalar_appends path field
  | .number _, path, field => dropScalar_appends path field
  | .string text, path, field =>
      importText_appends check path field text
  | .array items, path, field => by
      have hItems := importItems_appends check items path 0
      rw [importValue]
      split
      · exact hItems.bind fun rules => .pure _
      · exact dropScalar_appends path field
  | .object members, path, field => by
      have hCaptures :=
        importCaptures_appends check members path []
      rw [importValue]
      split
      · exact hCaptures.bind fun captures => .pure _
      · exact dropScalar_appends path field

theorem importCaptures_appends
    (check : Acceptance) :
    ∀ (members : List (String × Json.Value))
      (path : String)
      (captures : Captures),
      (importCaptures check path captures members).Appends
  | [], path, captures => .pure _
  | (key, value) :: rest, path, captures => by
      have hRest := importCaptures_appends check rest path
      rw [importCaptures]
      split
      · exact .throw _
      · refine
          (importNested_appends check value
            (memberPath path key)).bind fun rule? => ?_
        cases rule? with
        | some rule => exact hRest _
        | none => exact hRest _

theorem importItems_appends
    (check : Acceptance) :
    ∀ (items : List Json.Value)
      (path : String)
      (position : Nat),
      (importItems check path position items).Appends
  | [], path, position => .pure _
  | value :: rest, path, position => by
      rw [importItems]
      refine
        (importNested_appends check value _).bind fun rule? => ?_
      exact
        (importItems_appends check rest path (position + 1)).bind
          fun rules => .pure _

theorem importNested_appends
    (check : Acceptance) :
    ∀ (value : Json.Value)
      (path : String),
      (importNested check path value).Appends
  | .object members, path => by
      rw [importNested]
      refine
        (importMembers_appends check members path .empty
          false).bind fun imported => ?_
      exact (settle_appends path _ _).bind fun rule => .pure _
  | .null, path => dropValue_appends path _
  | .bool _, path => dropValue_appends path _
  | .number _, path => dropValue_appends path _
  | .string _, path => dropValue_appends path _
  | .array _, path => dropValue_appends path _

end

theorem importRule_appends
    (check : Acceptance)
    (path : String)
    (members : Json.Object) :
    (importRule check path members).Appends :=
  (importMembers_appends check members path .empty false).bind
    fun _ => settle_appends path _ _

theorem importEntries_appends
    (check : Acceptance)
    (entries : List (String × Json.Object))
    (repository : Repository) :
    (importEntries check repository entries).Appends := by
  induction entries generalizing repository with
  | nil => exact .pure _
  | cons entry rest ih =>
      rcases entry with ⟨name, members⟩
      rw [importEntries]
      -- What is done with the entry, whether its name is taken
      -- or not: where it is, nothing of this is run.
      have hEntry :
          (do
            let rule ←
              importRule check (Grammar.entryPath name) members
            let repository ← repository.insert name rule
            Run.note .debug
              ("Processed repository entry '" ++ name ++ "'")
            importEntries check repository rest :
              Run Repository).Appends := by
        refine (importRule_appends check _ members).bind ?_
        intro rule
        refine (Appends.lift _).bind fun repository => ?_
        exact (Appends.note rfl).bind fun _ => ih repository
      split
      · exact (Appends.throw _).bind fun _ => hEntry
      · exact hEntry

theorem importPatterns_appends
    (check : Acceptance)
    (patterns : List Json.Object)
    (position : Nat) :
    (importPatterns check position patterns).Appends := by
  induction patterns generalizing position with
  | nil => exact .pure _
  | cons members rest ih =>
      refine (importRule_appends check _ members).bind ?_
      exact fun rule => (ih (position + 1)).bind fun _ => .pure _

theorem importExtra_appends
    (extra : Json.Object) :
    (importExtra extra).Appends := by
  induction extra with
  | nil => exact .pure _
  | cons field rest ih =>
      rcases field with ⟨key, value⟩
      rw [importExtra]
      refine (Appends.report _ _ _).bind fun _ => ?_
      split
      · exact ih.bind fun _ => .pure _
      · exact (Appends.report _ _ _).bind fun _ => ih

end Import

/- The import of a document appends to its journal alone. -/
theorem importGrammar_appends
    (check : Import.Acceptance)
    (document : Document) :
    (importGrammar check document).Appends := by
  refine
    (Import.importEntries_appends check _ _).bind fun _ => ?_
  refine
    (Import.importPatterns_appends check _ _).bind fun _ => ?_
  exact (Import.importExtra_appends _).bind fun _ => .pure _

/- So does the check of the includes of a grammar. -/
theorem Grammar.reportDangling_appends
    (grammar : Grammar) :
    grammar.reportDangling.Appends := by
  refine
    Run.Appends.of_forall (.ok grammar.danglingIncludes.length)
      ⟨grammar.danglingIncludes,
        grammar.danglingIncludes.map Diagnostic.record⟩
      grammar.start_reportDangling ?_
  refine List.filter_eq_self.mpr fun record hRecord => ?_
  rcases List.mem_map.mp hRecord with ⟨diagnostic, -, rfl⟩
  exact diagnostic.isReport_record

/-
  The diagnostics of a run are only ever added behind those that
  are there, and never influence it: on any journal an import,
  and a check of includes, gives the same result as on an empty
  one, and adds the same to the diagnostics and to the log, also
  where it fails.  The warnings and errors that it logs are the
  texts of its diagnostics, in order and at their severity.
-/
theorem journal_append_only
    (check : Import.Acceptance)
    (document : Document)
    (grammar : Grammar) :
    (importGrammar check document).Appends ∧
      grammar.reportDangling.Appends :=
  ⟨importGrammar_appends check document,
    grammar.reportDangling_appends⟩

end TextMate
