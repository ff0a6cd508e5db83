import TextMate.CommandLine.Run
import TextMate.Proofs.Build.Outcome
import TextMate.Proofs.Decompile.Outcome
import TextMate.Proofs.Import.Shape

/-
  This file proves that a run which fails before it writes
  leaves the disk as it was.

  The errors of the stages before the writing are told apart
  from those of the writing by their kind, except that both may
  fail for a path: a document that is to be replaced by its own
  units is a file, and then the folder cannot be emptied.

  Main declarations:
    * `Error.IsEarly`
    * `failsOnly_renderUnits`
    * `failsOnly_prepare`
    * `outcome_decompile_of_prepare`
    * `disk_decompile_of_early`
    * `run_normalize_of_importFile`
    * `unchanged_of_early_failure`
-/

namespace TextMate

open Import (Acceptance)

------------------------------------------------------------
-- Errors before the Writing
------------------------------------------------------------

/- An error that is met before anything is written. -/
def Error.IsEarly
    (path : String) : Error → Prop
  | .io other _ => other = path
  | .json _ | .repositoryCollision _ | .capturesKey _ _
  | .invalidRule _ _ | .format _ => True
  | .batchWrite _ => False

/- Values that may have failed bring their errors along. -/
theorem Action.failsOnly_ofExcept
    {α : Type}
    {kind : Error → Prop}
    {result : Except Error α}
    (hResult : ∀ error, result = .error error → kind error) :
    FailsOnly kind (Action.ofExcept result) := by
  intro workspace error hError
  rw [Action.outcome_ofExcept] at hError
  exact hResult error hError

theorem Run.failsOnly_ofExcept
    {α : Type}
    {kind : Error → Prop}
    {result : Except Error α}
    (hResult : ∀ error, result = .error error → kind error) :
    FailsOnly kind (Run.ofExcept result) := by
  cases result with
  | error error => exact .throw (hResult error rfl)
  | ok value => exact .pure value

------------------------------------------------------------
-- Stages before the Writing
------------------------------------------------------------

variable (path : String)

/- A document cannot be found, or not be read. -/
theorem isEarly_of_loadDocument
    {disk : Disk}
    {error : Error}
    (hLoad : loadDocument disk path = .error error) :
    error.IsEarly path := by
  unfold loadDocument loadJson at hLoad
  split at hLoad
  · cases hLoad
    rfl
  · cases hLoad
    trivial
  · rename_i contents _ _
    cases hText : Document.ofText .stream contents with
    | error failure =>
        rw [hText] at hLoad
        cases hLoad
        trivial
    | ok document =>
        rw [hText] at hLoad
        cases hLoad

/- A captures key stops the import of a rule. -/
theorem isEarly_of_mem_walk_errors
    {α : Type}
    {walk : Import.Walk α}
    {other : String}
    {error : Error}
    (hError : error ∈ walk.errors other) :
    error.IsEarly path := by
  rcases List.mem_filterMap.mp hError with ⟨groupKey, -, hKey⟩
  unfold Import.GroupKey.error? at hKey
  split at hKey
  · cases hKey
  · cases hKey
    trivial

/- Besides, a name that is used twice stops that of entries. -/
theorem isEarly_of_mem_entryErrors
    {check : Acceptance}
    {taken : List String}
    {entries : List (String × Json.Object)}
    {error : Error}
    (hError :
      error ∈ Document.entryErrors check taken entries) :
    error.IsEarly path := by
  induction entries generalizing taken with
  | nil => cases hError
  | cons entry entries ih =>
      rw [Document.entryErrors, List.mem_append,
        List.mem_append] at hError
      rcases hError with hName | hRule | hRest
      · split at hName
        · cases List.mem_singleton.mp hName
          trivial
        · cases hName
      · exact isEarly_of_mem_walk_errors path hRule
      · exact ih hRest

/- Nothing else stops the import of a document. -/
theorem failsOnly_importGrammar
    (check : Acceptance)
    (document : Document) :
    FailsOnly (Error.IsEarly path)
      (importGrammar check document) := by
  intro journal error hError
  have hFollows := importGrammar_follows check document journal
  have hMember : error ∈ document.errors check := by
    cases hErrors : document.errors check with
    | nil =>
        rw [hErrors] at hFollows
        cases hFollows.1.symm.trans hError
    | cons first rest =>
        rw [hErrors] at hFollows
        cases hFollows.symm.trans hError
        exact List.mem_cons_self
  rw [Document.errors, List.mem_append, List.mem_flatMap]
    at hMember
  rcases hMember with hEntry | ⟨item, -, hItem⟩
  · exact isEarly_of_mem_entryErrors path hEntry
  · exact isEarly_of_mem_walk_errors path hItem

/- Entries cannot be told apart by their identifiers. -/
theorem isEarly_of_splitEntries
    {taken : List String}
    {entries : List (String × Rule)}
    {error : Error}
    (hSplit : Source.splitEntries taken entries = .error error) :
    error.IsEarly path := by
  induction entries generalizing taken with
  | nil => cases hSplit
  | cons entry entries ih =>
      simp only [Source.splitEntries] at hSplit
      split at hSplit
      · cases hSplit
        trivial
      · split at hSplit
        · rename_i hRest
          cases hSplit
          exact ih hRest
        · cases hSplit

theorem isEarly_of_units
    {grammar : Grammar}
    {error : Error}
    (hUnits : grammar.units = .error error) :
    error.IsEarly path := by
  unfold Grammar.units Repository.split at hUnits
  split at hUnits
  · rename_i hSplit
    cases hUnits
    split at hSplit
    · rename_i hEntries
      cases hSplit
      exact isEarly_of_splitEntries path hEntries
    · cases hSplit
  · cases hUnits

/- Units are rendered, or a check before it fails. -/
theorem failsOnly_renderUnits
    (check : Acceptance)
    (checkIncludes : Bool)
    (document : Document) :
    FailsOnly (Error.IsEarly path)
      (renderUnits check checkIncludes document) := by
  refine
    (failsOnly_importGrammar path check document).bind
      fun grammar => ?_
  have hValid :
      ∀ error, grammar.validate = .error error →
        error.IsEarly path := by
    intro error hError
    rcases exists_shapeFault_of_checkShapes hError with
      ⟨_, -, _, -, rfl⟩
    trivial
  have hUnits :
      FailsOnly (Error.IsEarly path)
        (Run.ofExcept grammar.units) :=
    Run.failsOnly_ofExcept fun _ => isEarly_of_units path
  refine (Run.failsOnly_ofExcept hValid).bind fun _ => ?_
  split
  · refine .bind (.bind (.forM (fun _ => .change _) _) ?_) ?_
    · exact fun _ => .pure _
    · exact fun _ => hUnits
  · exact hUnits

/-
  All that comes before the writing fails like that, if the
  formatter has no errors but its own.
-/
theorem failsOnly_prepare
    (check : Acceptance)
    (options : DecompileOptions)
    (hRefuses : options.formatter.RefusesOnly) :
    FailsOnly (Error.IsEarly path)
      (prepare check options path) := by
  have hLoad :
      FailsOnly (Error.IsEarly path)
        (Action.query fun disk => loadDocument disk path) := by
    intro workspace error hError
    rw [Action.outcome_query] at hError
    exact isEarly_of_loadDocument path hError
  have hFormat :
      ∀ source,
        FailsOnly (Error.IsEarly path)
          (options.formatter.format source) := by
    intro source workspace error hError
    rw [Formatter.outcome_format] at hError
    rcases hRefuses _ _ _ hError with ⟨message, rfl⟩
    trivial
  refine hLoad.bind fun document => ?_
  refine (FailsOnly.change _).bind fun _ => ?_
  -- The units are computed apart, and only then do they fail.
  refine .bind_of_ok nofun ?_
  rintro _ ⟨result, diagnostics⟩ _ hCollect
  cases hCollect
  have hUnits :=
    failsOnly_renderUnits path check options.checkIncludes
      document .empty
  refine (Action.failsOnly_ofExcept hUnits).bind fun units => ?_
  refine .bind (.mapM (fun unit => ?_) units) fun _ => .pure _
  exact (hFormat unit.text).bind fun _ => .pure _

------------------------------------------------------------
-- Folders That Are Files
------------------------------------------------------------

/- A file cannot be emptied as a folder. -/
theorem Disk.outcome_clean_of_file
    {disk : Disk}
    {path contents : String}
    {isExecutable : Bool}
    (hFile :
      disk.find path = .ok (.file contents isExecutable)) :
    outcome (Disk.clean path) disk =
      (.error .notDirectory, disk) := by
  rcases Disk.find_eq_ok_iff.mp hFile with
    ⟨place, hPlace, hEntry⟩
  have hRemove :
      outcome (Disk.removeAll path) disk =
        (.error .notDirectory, disk) := by
    rw [Disk.outcome_removeAll, hPlace]
    simp only [hEntry]
  unfold Disk.clean
  rw [outcome_bind, Disk.outcome_attempt, hRemove]
  rfl

/- A document that is loaded is in a file. -/
theorem find_of_loadDocument
    {disk : Disk}
    {path : String}
    {document : Document}
    (hLoad : loadDocument disk path = .ok document) :
    ∃ contents isExecutable,
      disk.find path = .ok (.file contents isExecutable) := by
  unfold loadDocument loadJson at hLoad
  split at hLoad
  · cases hLoad
  · cases hLoad
  · rename_i contents isExecutable hFind
    exact ⟨contents, isExecutable, hFind⟩

------------------------------------------------------------
-- Decompilations That Fail
------------------------------------------------------------

/- A decompilation succeeds in its first part or fails there. -/
theorem exists_document_of_prepare
    {check : Acceptance}
    {options : DecompileOptions}
    {path : String}
    {workspace after : Workspace}
    {prepared : Prepared}
    (hPrepare :
      outcome (prepare check options path) workspace =
        (.ok prepared, after)) :
    ∃ document,
      loadDocument workspace.disk path = .ok document := by
  rcases outcome_bind_eq_ok_iff.mp hPrepare with
    ⟨document, _, hLoad, -⟩
  rw [Action.outcome_query] at hLoad
  exact ⟨document, congrArg Prod.fst hLoad⟩

/- Where the first part fails, the second one is not run. -/
theorem outcome_decompile_of_prepare
    {check : Acceptance}
    {options : DecompileOptions}
    {path : String}
    {workspace : Workspace}
    {error : Error}
    (hPrepare :
      (outcome (prepare check options path) workspace).1 =
        .error error) :
    outcome (decompile check options path) workspace =
      (.error error,
        (outcome (prepare check options path) workspace).2) := by
  rw [decompile_eq_bind, outcome_bind]
  rcases hOutcome :
    outcome (prepare check options path) workspace with
    ⟨_ | _, _⟩
  · rw [hOutcome] at hPrepare
    cases hPrepare
    rfl
  · rw [hOutcome] at hPrepare
    cases hPrepare

/- A decompilation that fails early leaves the disk alone. -/
theorem disk_decompile_of_early
    {check : Acceptance}
    {options : DecompileOptions}
    {path : String}
    {workspace after : Workspace}
    {error : Error}
    (hKeeps : options.formatter.KeepsDisk workspace.disk)
    (hRun :
      outcome (decompile check options path) workspace =
        (.error error, after))
    (hEarly : error.IsEarly path) :
    after.disk = workspace.disk := by
  have hDisk :=
    keepsDisk_prepare check options hKeeps path workspace rfl
  rw [decompile_eq_bind, outcome_bind] at hRun
  rcases hPrepare :
    outcome (prepare check options path) workspace with
    ⟨_ | prepared, between⟩
  · rw [hPrepare] at hRun hDisk
    cases hRun
    exact hDisk
  · rw [hPrepare] at hRun hDisk
    dsimp only at hRun hDisk
    rw [Prepared.write, outcome_bind, Action.outcome_ofAccess]
      at hRun
    rcases hClean :
      outcome (Disk.clean options.outFolder) between.disk with
      ⟨cause | ⟨⟩, cleaned⟩
    · rw [hClean] at hRun
      cases hRun
      have hPath : options.outFolder = path := hEarly
      rcases exists_document_of_prepare hPrepare with
        ⟨document, hLoad⟩
      rcases find_of_loadDocument hLoad with
        ⟨contents, isExecutable, hFile⟩
      rw [hPath, hDisk, Disk.outcome_clean_of_file hFile]
        at hClean
      exact (congrArg Prod.snd hClean).symm
    · rw [hClean] at hRun
      have hBatch :
          FailsOnly (fun error => ¬error.IsEarly path)
            (runBatch
                (unitJobs options.outFolder prepared.units) >>=
              fun written =>
                (pure ⟨prepared.name, written,
                  prepared.diagnostics⟩ :
                  Action DecompileReport)) :=
        (failsOnly_runBatch (fun _ => id) _).bind
          fun _ => .pure _
      have hLate :=
        hBatch { between with disk := cleaned } error
          (congrArg Prod.fst hRun)
      exact absurd hEarly hLate

------------------------------------------------------------
-- Builds That Fail
------------------------------------------------------------

/- Files to copy are not found, or a batch of copies fails. -/
theorem failsOnly_copyFiles
    {kind : Error → Prop}
    (hIo : ∀ path cause, kind (.io path cause))
    (hBatch : ∀ failure, kind (.batchWrite failure))
    (options : BuildOptions) :
    FailsOnly kind options.copyFiles := by
  unfold BuildOptions.copyFiles
  split
  · intro workspace error hError
    rw [outcome_copyConfigs] at hError
    split at hError
    · cases hError
      exact hIo _ _
    · exact failsOnly_runBatch hBatch _ _ _ hError
  · exact .pure _

/- A rule that is out of shape stops a build at its start. -/
theorem eq_of_build_of_invalidRule
    {options : BuildOptions}
    {grammar : Grammar}
    {path reason : String}
    {workspace after : Workspace}
    (hRun :
      outcome (build options grammar) workspace =
        (.error (.invalidRule path reason), after)) :
    after = workspace := by
  rw [outcome_build] at hRun
  split at hRun
  · cases hRun
    rfl
  · split at hRun
    · cases hRun
    · split at hRun
      · cases hRun
      · rename_i place _
        -- What is left to fail is the copying of files.
        have hCopy :
            FailsOnly
              (fun error => error ≠ .invalidRule path reason)
              options.copyFiles :=
          failsOnly_copyFiles (fun _ _ => nofun)
            (fun _ => nofun) options
        have hResult := congrArg Prod.fst hRun
        dsimp only at hResult
        rcases hLast : (outcome options.copyFiles _).1 with
          error | copied
        · rw [hLast] at hResult
          cases hResult
          exact absurd rfl (hCopy _ _ hLast)
        · rw [hLast] at hResult
          cases hResult

------------------------------------------------------------
-- Runs That Fail
------------------------------------------------------------

open CommandLine (Command failure finish importFile)

/- An import of a file leaves the disk alone. -/
theorem keepsDisk_importFile
    (check : Acceptance)
    (path : String)
    (disk : Disk) :
    Preserves (Workspace.On disk)
      (importFile check path) := by
  refine (Action.keepsDisk_query _ _).bind fun document => ?_
  refine (Action.keepsDisk_collect _ _).bind fun result => ?_
  refine (Action.keepsDisk_ofExcept _ _).bind fun grammar => ?_
  exact .pure _

/- A normalization whose import fails does nothing else. -/
theorem run_normalize_of_importFile
    {check : Acceptance}
    {path : String}
    {workspace : Workspace}
    {error : Error}
    (hImport :
      (outcome (importFile check path) workspace).1 =
        .error error)
    (outFolder : String)
    (name configFolder : Option String) :
    let command :=
      Command.normalize path outFolder name configFolder
    (command.run check).run workspace =
      (failure error [],
        (outcome (importFile check path) workspace).2) := by
  intro command
  have hFinish :
      StateT.run (finish (importFile check path)) workspace =
        (.error error,
          (outcome (importFile check path) workspace).2) :=
    Prod.ext hImport rfl
  simp only [command, Command.run, StateT.run_bind]
  rw [hFinish]
  rfl

/-
  A run that fails before it writes leaves the disk as it was: a
  decompilation with an error of an early kind, or with any
  error of a stage before the writing, a build with a rule that
  is out of shape, and a normalization with a document that
  cannot be loaded or imported.  The early kinds are those of
  the stages, but for other errors that a formatter may have.
-/
theorem unchanged_of_early_failure
    (check : Acceptance)
    (workspace : Workspace) :
    (∀ options path error after,
      Formatter.KeepsDisk options.formatter workspace.disk →
        outcome (decompile check options path) workspace =
            (.error error, after) →
          error.IsEarly path →
            after.disk = workspace.disk) ∧
      (∀ options path error,
        (outcome (prepare check options path) workspace).1 =
            .error error →
          let run :=
            outcome (decompile check options path) workspace
          run.1 = .error error ∧
            (options.formatter.KeepsDisk workspace.disk →
              run.2.disk = workspace.disk) ∧
            (options.formatter.RefusesOnly →
              error.IsEarly path)) ∧
      (∀ options grammar path reason after,
        outcome (build options grammar) workspace =
            (.error (.invalidRule path reason), after) →
          after = workspace) ∧
      ∀ path outFolder name configFolder error,
        (outcome (importFile check path) workspace).1 =
            .error error →
          let command :=
            Command.normalize path outFolder name configFolder
          let run := (command.run check).run workspace
          run.1 = failure error [] ∧
            run.2.disk = workspace.disk := by
  refine
    ⟨fun _ _ _ _ => disk_decompile_of_early, ?_,
      fun _ _ _ _ _ => eq_of_build_of_invalidRule, ?_⟩
  · intro options path error hError run
    have hRun :
        run =
          (.error error,
            (outcome (prepare check options path)
              workspace).2) :=
      outcome_decompile_of_prepare hError
    rw [hRun]
    refine ⟨rfl, fun hKeeps => ?_, fun hRefuses => ?_⟩
    · exact
        keepsDisk_prepare check options hKeeps path workspace rfl
    · exact
        failsOnly_prepare path check options hRefuses _ _ hError
  · intro path outFolder name configFolder error hError command
      run
    have hRun :
        run =
          (failure error [],
            (outcome (importFile check path) workspace).2) :=
      run_normalize_of_importFile hError outFolder name
        configFolder
    rw [hRun]
    exact
      ⟨rfl,
        keepsDisk_importFile check path workspace.disk workspace
          rfl⟩

/-
  A disk with a document that has a captures key that is no
  index, and with a unit of an earlier decompilation.
-/
def earlierDisk : Disk where
  entries :=
    [(["in.json"],
        .file
          ("\x7b\"name\":\"n\",\"scopeName\":\"s\"," ++
            "\"patterns\":[\x7b\"captures\":" ++
            "\x7b\"x\":\x7b\x7d\x7d\x7d]\x7d")
          false),
      (["out"], .folder),
      (["out", "mod.rs"], .file "earlier" false)]
  workFolder := []

/- A failure shows in any result that is made of a value. -/
theorem eq_error_of_map
    {ε α β : Type}
    (change : α → β)
    {result : Except ε α}
    {error : ε}
    (hError : result.map change = .error error) :
    result = .error error := by
  cases result with
  | error _ =>
      cases hError
      rfl
  | ok _ => cases hError

/- A grammar with a rule that only begins. -/
def begunGrammar : Grammar :=
  { Grammar.empty with
    patterns :=
      [{ Rule.empty with
          beginPattern := some (.compiled (.ofText "a")) }] }

/- The earlier unit survives three runs that fail. -/
theorem unchanged_of_early_failure_earlierDisk :
    let check : Acceptance := fun _ => none
    let workspace : Workspace := ⟨earlierDisk, []⟩
    let error : Error := .capturesKey "patterns[0].captures" "x"
    let decompiled :=
      outcome
        (decompile check ⟨"out", .verbatim, true⟩ "in.json")
        workspace
    let built :=
      outcome (build ⟨"out", none, none⟩ begunGrammar) workspace
    let command :=
      Command.normalize "in.json" "out" none none
    let normalized := (command.run check).run workspace
    decompiled.1 = .error error ∧
      decompiled.2.disk = earlierDisk ∧
      built.2.disk = earlierDisk ∧
      normalized.1 = failure error [] ∧
      normalized.2.disk = earlierDisk := by
  intro check workspace error decompiled built command
    normalized
  have hUnchanged := unchanged_of_early_failure check workspace
  have hPrepare :
      (outcome
          (prepare check ⟨"out", .verbatim, true⟩ "in.json")
          workspace).1 =
        .error error := by
    decide +kernel
  have hImport :
      (outcome (importFile check "in.json") workspace).1 =
        .error error :=
    eq_error_of_map (fun _ => ()) (by decide +kernel)
  have hBuilt :
      built.1 =
        .error
          (.invalidRule "patterns[0]"
            Rule.ShapeFault.beginAlone.reason) :=
    eq_error_of_map (fun _ => ()) (by decide +kernel)
  rcases hUnchanged.2.1 ⟨"out", .verbatim, true⟩ "in.json" error
    hPrepare with ⟨hDecompiled, -, hKind⟩
  have hEarly := hKind Formatter.refusesOnly_verbatim
  rcases hUnchanged.2.2.2 "in.json" "out" none none error hImport
    with ⟨hReply, hNormalized⟩
  refine ⟨hDecompiled, ?_, ?_, hReply, hNormalized⟩
  · exact
      hUnchanged.1 ⟨"out", .verbatim, true⟩ "in.json" error _
        (Formatter.keepsDisk_verbatim _)
        (Prod.ext hDecompiled rfl) hEarly
  · exact
      congrArg Workspace.disk
        (hUnchanged.2.2.1 ⟨"out", none, none⟩ begunGrammar _ _ _
          (Prod.ext hBuilt rfl))

end TextMate
