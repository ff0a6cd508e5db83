import TextMate.Build
import TextMate.Proofs.Batch

/-
  This file states what a build gives and leaves, stage by
  stage: the folder is emptied, the grammar is written, and the
  configuration files are copied.  All of this keeps a disk
  rooted.

  Main declarations:
    * `BuildOptions.fileName`
    * `BuildOptions.copyFiles`
    * `outcome_build`
    * `build_eq_ok`
    * `rooted_build`
-/

namespace TextMate

/- The name of the grammar file, which is joined to the folder. -/
def BuildOptions.fileName
    (options : BuildOptions)
    (grammar : Grammar) : String :=
  options.name.getD grammar.name ++ grammarEnding

theorem BuildOptions.target_eq_join
    (options : BuildOptions)
    (grammar : Grammar) :
    options.target grammar =
      Path.join options.outFolder (options.fileName grammar) :=
  rfl

/- The last stage of a build. -/
def BuildOptions.copyFiles
    (options : BuildOptions) : Action (List String) :=
  match options.configFolder with
  | some folder => copyConfigs folder options.outFolder
  | none => pure []

/- The workspace in which the grammar was written at a place. -/
def wroteGrammar
    (options : BuildOptions)
    (grammar : Grammar)
    (disk : Disk)
    (log : List LogRecord)
    (place : Disk.Place) : Workspace where
  disk :=
    disk.put place
      (.file grammar.toDocument.text (disk.isProgram place))
  log :=
    log ++
      [⟨.info,
        "Wrote file '" ++ options.target grammar ++ "'"⟩]

section Wrote

variable {options : BuildOptions}
variable {grammar : Grammar}
variable {disk : Disk}
variable {place : Disk.Place}

/- The grammar is at its place, and nothing else changed. -/
theorem entryAt?_wroteGrammar
    (hPlace : disk.writable (options.target grammar) = .ok place)
    (log : List LogRecord)
    (other : Disk.Place) :
    (wroteGrammar options grammar disk log
        place).disk.entryAt? other =
      if other = place then
        some
          (.file grammar.toDocument.text (disk.isProgram place))
      else disk.entryAt? other :=
  Disk.entryAt?_put disk (Disk.ne_root_of_writable hPlace) _
    other

theorem extends_wroteGrammar
    (hPlace : disk.writable (options.target grammar) = .ok place)
    (log : List LogRecord) :
    Disk.Extends disk
      (wroteGrammar options grammar disk log place).disk :=
  Disk.extends_put (Disk.ne_root_of_writable hPlace)
    (Disk.not_folder_of_writable hPlace) _ _

theorem named_wroteGrammar
    (hNamed : disk.Named)
    (hPlace : disk.writable (options.target grammar) = .ok place)
    (log : List LogRecord) :
    (wroteGrammar options grammar disk log place).disk.Named :=
  hNamed.put_of_writable hPlace _

end Wrote

/- A build goes through its stages, up to the first that fails. -/
theorem outcome_build
    (options : BuildOptions)
    (grammar : Grammar)
    (workspace : Workspace) :
    outcome (build options grammar) workspace =
      match grammar.validate with
      | .error error => (.error error, workspace)
      | .ok () =>
          match
            outcome (Disk.clean options.outFolder)
              workspace.disk with
          | (.error cause, disk) =>
              (.error (.io options.outFolder cause),
                { workspace with disk := disk })
          | (.ok (), disk) =>
              match disk.writable (options.target grammar) with
              | .error cause =>
                  (.error (.io (options.target grammar) cause),
                    { workspace with disk := disk })
              | .ok place =>
                  let last :=
                    outcome options.copyFiles
                      (wroteGrammar options grammar disk
                        workspace.log place)
                  (last.1.map fun copied =>
                    ⟨options.target grammar, copied⟩, last.2) := by
  unfold build
  simp only [outcome_bind, Action.outcome_ofExcept]
  cases grammar.validate with
  | error error => rfl
  | ok _ =>
      simp only [Action.outcome_ofAccess]
      rcases
        outcome (Disk.clean options.outFolder)
          workspace.disk with ⟨_ | ⟨⟩, disk⟩
      · rfl
      · simp only [Disk.outcome_write]
        cases disk.writable (options.target grammar) with
        | error cause => rfl
        | ok place =>
            simp only [Action.outcome_note,
              BuildOptions.copyFiles]
            cases options.configFolder with
            | none => rfl
            | some folder =>
                exact
                  outcome_map
                    (copyConfigs folder options.outFolder) _ _

/-
  A build that succeeds went through all of its stages: it wrote
  the grammar to the emptied disk, and then copied files.
-/
theorem build_eq_ok
    {options : BuildOptions}
    {grammar : Grammar}
    {workspace after : Workspace}
    {report : BuildReport}
    (hNamed : workspace.disk.Named)
    (hBuild :
      outcome (build options grammar) workspace =
        (.ok report, after)) :
    ∃ cleaned place copied,
      cleaned.Named ∧
        cleaned.writable (options.target grammar) = .ok place ∧
        outcome options.copyFiles
            (wroteGrammar options grammar cleaned workspace.log
              place) =
          (.ok copied, after) ∧
        report = ⟨options.target grammar, copied⟩ := by
  have hCleanNamed :=
    Disk.named_clean options.outFolder workspace.disk hNamed
  rw [outcome_build] at hBuild
  split at hBuild
  · cases hBuild
  · rcases hClean :
      outcome (Disk.clean options.outFolder) workspace.disk with
      ⟨_ | ⟨⟩, cleaned⟩
    · rw [hClean] at hBuild
      cases hBuild
    · rw [hClean] at hBuild hCleanNamed
      dsimp only at hBuild
      split at hBuild
      · cases hBuild
      · rename_i place hPlace
        rcases hCopy : outcome options.copyFiles _ with
          ⟨_ | copied, last⟩
        · rw [hCopy] at hBuild
          cases hBuild
        · rw [hCopy] at hBuild
          cases hBuild
          exact
            ⟨cleaned, place, copied, hCleanNamed, hPlace, hCopy,
              rfl⟩

------------------------------------------------------------
-- Rooted Disks
------------------------------------------------------------

/- The files are copied into folders. -/
theorem rooted_copyFiles
    (options : BuildOptions) :
    Preserves
      (fun workspace : Workspace => workspace.disk.Rooted)
      options.copyFiles := by
  unfold BuildOptions.copyFiles
  split
  · rename_i folder _
    intro workspace hRooted
    rw [outcome_copyConfigs]
    split
    · exact hRooted
    · exact
        Preserves.runBatch (fun job _ => job.rooted_run)
          workspace hRooted
  · exact .pure _

/- A build keeps a disk rooted, also if it fails. -/
theorem rooted_build
    (options : BuildOptions)
    (grammar : Grammar) :
    Preserves
      (fun workspace : Workspace => workspace.disk.Rooted)
      (build options grammar) := by
  intro workspace hRooted
  have hClean :=
    Disk.rooted_clean options.outFolder workspace.disk hRooted
  rw [outcome_build]
  split
  · exact hRooted
  · rcases hOutcome :
      outcome (Disk.clean options.outFolder) workspace.disk with
      ⟨_ | ⟨⟩, cleaned⟩
    · rw [hOutcome] at hClean
      exact hClean
    · rw [hOutcome] at hClean
      dsimp only
      split
      · exact hClean
      · rename_i place hPlace
        apply rooted_copyFiles options
        exact hClean.put_of_writable hPlace _ _

end TextMate
