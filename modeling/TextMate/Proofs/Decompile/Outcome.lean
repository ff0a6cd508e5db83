import Mathlib.Data.List.Forall2
import TextMate.Decompile
import TextMate.Proofs.Batch

/-
  This file splits a decompilation into the part that reads and
  formats, and the part that writes.  A formatter that leaves
  the disk alone gives a result that depends on the disk and the
  source, and then the first part leaves the disk alone.

  Main declarations:
    * `Formatter.KeepsDisk`
    * `Formatter.result`
    * `Formatter.outcome_format`
    * `Formatter.RefusesOnly`
    * `Prepared`
    * `prepare`
    * `Prepared.write`
    * `decompile_eq_bind`
    * `keepsDisk_prepare`
    * `prepare_eq_ok`, `Prepared.write_eq_ok`
    * `renderUnits_eq_ok`
-/

namespace TextMate

open Import (Acceptance)

------------------------------------------------------------
-- Formatters That Leave the Disk Alone
------------------------------------------------------------

namespace Formatter

variable {formatter : Formatter}
variable {disk : Disk}

/- Whatever is formatted on a disk, the disk stays as it is. -/
def KeepsDisk
    (formatter : Formatter)
    (disk : Disk) : Prop :=
  ∀ source, (formatter.run source disk).2 = disk

/- A source that is kept needs no disk. -/
theorem keepsDisk_verbatim
    (disk : Disk) :
    KeepsDisk .verbatim disk :=
  fun _ => rfl

/- What formatting a source on a disk gives. -/
def result
    (formatter : Formatter)
    (disk : Disk)
    (source : String) : Except Error String :=
  (formatter.run source disk).1

/- A formatter runs on the disk, and the log stays as it is. -/
theorem outcome_format
    (formatter : Formatter)
    (source : String)
    (workspace : Workspace) :
    outcome (formatter.format source) workspace =
      (formatter.result workspace.disk source,
        { workspace with
          disk := (formatter.run source workspace.disk).2 }) := by
  rw [format]
  simp only [outcome_bind, outcome_get, outcome_modify,
    Action.outcome_ofExcept]
  rfl

/- Where it keeps the disk, the workspace stays on it. -/
theorem preserves_format
    (hKeeps : formatter.KeepsDisk disk)
    (source : String) :
    Preserves (Workspace.On disk) (formatter.format source) := by
  intro workspace hDisk
  rw [outcome_format, show workspace.disk = disk from hDisk]
  exact hKeeps source

/-
  The formatter fails with messages of its own only, and with no
  error that another stage has.
-/
def RefusesOnly
    (formatter : Formatter) : Prop :=
  ∀ disk source error,
    formatter.result disk source = .error error →
      ∃ message, error = .format message

/- A source that is kept is never refused. -/
theorem refusesOnly_verbatim :
    RefusesOnly .verbatim :=
  fun _ _ _ => nofun

/- A program is refused, or its output is. -/
theorem refusesOnly_program
    (path : String)
    (style : Style) :
    RefusesOnly (.program path style) := by
  intro disk source error hError
  unfold result program at hError
  dsimp only at hError
  split at hError
  · cases hError
    exact ⟨_, rfl⟩
  · unfold collectOutput at hError
    split at hError
    · split at hError
      · cases hError
      · cases hError
        exact ⟨_, rfl⟩
    · cases hError
      exact ⟨_, rfl⟩

end Formatter

------------------------------------------------------------
-- Formatted Units
------------------------------------------------------------

/- A unit is formatted: its path stays, and its text is given. -/
def IsFormatted
    (formatter : Formatter)
    (disk : Disk)
    (unit formatted : SourceUnit) : Prop :=
  formatted.path = unit.path ∧
    formatter.result disk unit.text = .ok formatted.text

theorem formatUnits_cons
    (formatter : Formatter)
    (unit : SourceUnit)
    (units : List SourceUnit) :
    formatUnits formatter (unit :: units) = do
      let text ← formatter.format unit.text
      let rest ← formatUnits formatter units
      return { unit with text := text } :: rest := by
  rw [formatUnits, List.mapM_cons]
  simp only [bind_assoc, pure_bind]
  rfl

/- Units are formatted on the same disk. -/
theorem keepsDisk_formatUnits
    {formatter : Formatter}
    {disk : Disk}
    (hKeeps : formatter.KeepsDisk disk)
    (units : List SourceUnit) :
    Preserves (Workspace.On disk)
      (formatUnits formatter units) := by
  apply Preserves.mapM
  intro unit _
  exact
    (Formatter.preserves_format hKeeps unit.text).bind
      fun _ => .pure _

/- If all units are formatted then each of them is. -/
theorem formatUnits_eq_ok
    {formatter : Formatter}
    {disk : Disk}
    {units formatted : List SourceUnit}
    {workspace after : Workspace}
    (hKeeps : formatter.KeepsDisk disk)
    (hDisk : workspace.On disk)
    (hRun :
      outcome (formatUnits formatter units) workspace =
        (.ok formatted, after)) :
    List.Forall₂ (IsFormatted formatter disk) units
      formatted := by
  induction units generalizing workspace formatted with
  | nil =>
      rw [formatUnits, List.mapM_nil] at hRun
      cases hRun
      exact .nil
  | cons unit units ih =>
      rw [formatUnits_cons] at hRun
      rcases outcome_bind_eq_ok_iff.mp hRun with
        ⟨text, between, hUnit, hRun⟩
      rcases outcome_bind_eq_ok_iff.mp hRun with
        ⟨rest, _, hRest, hLast⟩
      cases hLast
      have hBetween :=
        (Formatter.preserves_format hKeeps unit.text).after hDisk
          hUnit
      rw [Formatter.outcome_format,
        show workspace.disk = disk from hDisk] at hUnit
      have hText :
          formatter.result disk unit.text = .ok text :=
        congrArg Prod.fst hUnit
      exact .cons ⟨rfl, hText⟩ (ih hBetween hRest)

------------------------------------------------------------
-- The Two Parts of a Decompilation
------------------------------------------------------------

/- What a decompilation has before it writes. -/
structure Prepared where
  name : String
  units : List SourceUnit
  diagnostics : List Diagnostic
deriving DecidableEq

/- All that a decompilation does before it writes. -/
def prepare
    (check : Acceptance)
    (options : DecompileOptions)
    (path : String) : Action Prepared := do
  let document ← Action.query fun disk =>
    loadDocument disk path
  Action.note ("Parsed grammar for '" ++ document.name ++ "'")
  let (result, diagnostics) ← Action.collect
    (renderUnits check options.checkIncludes document)
  let units ←
    formatUnits options.formatter (← Action.ofExcept result)
  return ⟨document.name, units, diagnostics⟩

/- The writing to a folder. -/
def Prepared.write
    (outFolder : String)
    (prepared : Prepared) : Action DecompileReport := do
  Action.ofAccess outFolder (Disk.clean outFolder)
  let written ← runBatch (unitJobs outFolder prepared.units)
  return ⟨prepared.name, written, prepared.diagnostics⟩

theorem decompile_eq_bind
    (check : Acceptance)
    (options : DecompileOptions)
    (path : String) :
    decompile check options path =
      prepare check options path >>=
        Prepared.write options.outFolder := by
  simp only [decompile, prepare, Prepared.write, bind_assoc,
    pure_bind]

/- The first part leaves the disk alone. -/
theorem keepsDisk_prepare
    (check : Acceptance)
    (options : DecompileOptions)
    {disk : Disk}
    (hKeeps : options.formatter.KeepsDisk disk)
    (path : String) :
    Preserves (Workspace.On disk)
      (prepare check options path) := by
  refine (Action.keepsDisk_query _ _).bind fun document => ?_
  refine (Action.keepsDisk_note _ _).bind fun _ => ?_
  refine (Action.keepsDisk_collect _ _).bind fun result => ?_
  refine (Action.keepsDisk_ofExcept _ _).bind fun units => ?_
  refine (keepsDisk_formatUnits hKeeps units).bind fun _ => ?_
  exact .pure _

/-
  If the first part succeeds then a document was loaded, its
  units were rendered, and each of them was formatted.
-/
theorem prepare_eq_ok
    {check : Acceptance}
    {options : DecompileOptions}
    {path : String}
    {workspace after : Workspace}
    {prepared : Prepared}
    (hKeeps : options.formatter.KeepsDisk workspace.disk)
    (hRun :
      outcome (prepare check options path) workspace =
        (.ok prepared, after)) :
    ∃ document units,
      loadDocument workspace.disk path = .ok document ∧
        ((renderUnits check options.checkIncludes document).start
          .empty).1 = .ok units ∧
        List.Forall₂
          (IsFormatted options.formatter workspace.disk) units
          prepared.units := by
  have hDisk : workspace.On workspace.disk := rfl
  rcases outcome_bind_eq_ok_iff.mp hRun with
    ⟨document, loaded, hLoad, hRun⟩
  have hLoaded := (Action.keepsDisk_query _ _).after hDisk hLoad
  rcases outcome_bind_eq_ok_iff.mp hRun with
    ⟨⟨⟩, noted, hNote, hRun⟩
  have hNoted := (Action.keepsDisk_note _ _).after hLoaded hNote
  rcases outcome_bind_eq_ok_iff.mp hRun with
    ⟨⟨result, diagnostics⟩, rendered, hCollect, hRun⟩
  have hRendered :=
    (Action.keepsDisk_collect _ _).after hNoted hCollect
  rcases outcome_bind_eq_ok_iff.mp hRun with
    ⟨units, given, hUnits, hRun⟩
  have hGiven :=
    (Action.keepsDisk_ofExcept _ _).after hRendered hUnits
  rcases outcome_bind_eq_ok_iff.mp hRun with
    ⟨formatted, _, hFormatted, hLast⟩
  rw [Action.outcome_query] at hLoad
  rw [Action.outcome_collect] at hCollect
  rw [Action.outcome_ofExcept] at hUnits
  have hResult := Except.ok.inj (congrArg Prod.fst hCollect)
  refine
    ⟨document, units, congrArg Prod.fst hLoad,
      (congrArg Prod.fst hResult).trans
        (congrArg Prod.fst hUnits), ?_⟩
  have hAll := formatUnits_eq_ok hKeeps hGiven hFormatted
  cases hLast
  exact hAll

/- Units are rendered of a grammar that is imported and valid. -/
theorem renderUnits_eq_ok
    {check : Acceptance}
    {checkIncludes : Bool}
    {document : Document}
    {journal : Journal}
    {units : List SourceUnit}
    (hRun :
      ((renderUnits check checkIncludes document).start
        journal).1 = .ok units) :
    ∃ grammar,
      ((importGrammar check document).start journal).1 =
          .ok grammar ∧
        grammar.validate = .ok () ∧
        grammar.units = .ok units := by
  have hExcept :
      ∀ {α : Type} {result : Except Error α} {value : α}
        {before after : Journal},
        outcome (Run.ofExcept result) before =
            (.ok value, after) →
          result = .ok value := by
    intro α result value before after hResult
    cases result <;> cases hResult
    rfl
  rcases
    outcome_bind_eq_ok_iff.mp
      (Prod.ext hRun rfl :
        outcome (renderUnits check checkIncludes document)
          journal = (.ok units, _)) with
    ⟨grammar, _, hImport, hRun⟩
  rcases outcome_bind_eq_ok_iff.mp hRun with
    ⟨⟨⟩, _, hValid, hRun⟩
  refine
    ⟨grammar, congrArg Prod.fst hImport, hExcept hValid, ?_⟩
  split at hRun
  · rcases outcome_bind_eq_ok_iff.mp hRun with
      ⟨_, _, -, hUnits⟩
    exact hExcept hUnits
  · exact hExcept hRun

/-
  The second part succeeds just if the folder is emptied and all
  units are written.
-/
theorem Prepared.write_eq_ok
    {outFolder : String}
    {prepared : Prepared}
    {workspace after : Workspace}
    {report : DecompileReport}
    (hRun :
      outcome (prepared.write outFolder) workspace =
        (.ok report, after)) :
    ∃ cleaned,
      outcome (Disk.clean outFolder) workspace.disk =
          (.ok (), cleaned) ∧
        Completes (unitJobs outFolder prepared.units) cleaned
          after.disk ∧
        report.written =
          prepared.units.map fun unit =>
            Path.join outFolder unit.path := by
  rcases outcome_bind_eq_ok_iff.mp hRun with
    ⟨⟨⟩, between, hClean, hRun⟩
  rcases outcome_bind_eq_ok_iff.mp hRun with
    ⟨written, last, hBatch, hLast⟩
  cases hLast
  rw [Action.outcome_ofAccess] at hClean
  split at hClean
  · rename_i cleaned hCleaned
    cases hClean
    rcases completes_of_runBatch hBatch with
      ⟨hWritten, hCompletes⟩
    refine ⟨cleaned, hCleaned, hCompletes, ?_⟩
    rw [hWritten, unitJobs, List.map_map]
    rfl
  · cases hClean

end TextMate
