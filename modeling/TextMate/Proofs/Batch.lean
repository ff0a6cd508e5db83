import TextMate.Batch
import TextMate.Proofs.Disk.Rooted
import TextMate.Proofs.Workspace

/-
  This file states what batches leave: what each of their jobs
  preserves, and in a batch that succeeds what all jobs do in
  order.

  Main declarations:
    * `Preserves.runBatch`
    * `Job.rooted_run`
    * `failsOnly_runBatch`
    * `Completes`
    * `completes_of_runBatch`
    * `mem_copyJobs_iff`
    * `holds_copyConfigs`
    * `completes_of_copyConfigs`
-/

namespace TextMate

------------------------------------------------------------
-- Runs of Jobs
------------------------------------------------------------

/- A job that is done is followed by the others. -/
theorem outcome_runJobs_cons
    (job : Job)
    (jobs : List Job)
    (workspace : Workspace) :
    outcome (runJobs (job :: jobs)) workspace =
      match outcome job.run workspace.disk with
      | (.ok (), disk) =>
          let rest :=
            outcome (runJobs jobs)
              ⟨disk,
                workspace.log ++
                  [⟨.info, "Wrote '" ++ job.target ++ "'"⟩]⟩
          (rest.1.map fun outcomes =>
            (job.target, .done) :: outcomes, rest.2)
      | (.error cause, disk) =>
          (.ok
            ((job.target, .failed cause.message) ::
              cancelAll jobs),
            { workspace with disk := disk }) := by
  rw [runJobs]
  simp only [outcome_bind, Action.outcome_attempt]
  rcases outcome job.run workspace.disk with ⟨_ | ⟨⟩, disk⟩
  · rfl
  · simp only [outcome_bind, Action.outcome_note]
    rcases outcome (runJobs jobs) _ with ⟨_ | _, _⟩ <;> rfl

namespace Preserves

variable {holds : Disk → Prop}

/- Jobs preserve what each of them preserves. -/
theorem runJobs
    {jobs : List Job}
    (hJobs : ∀ job ∈ jobs, Preserves holds job.run) :
    Preserves (fun workspace : Workspace => holds workspace.disk)
      (TextMate.runJobs jobs) := by
  induction jobs with
  | nil => exact pure []
  | cons job jobs ih =>
      have hRest :=
        ih fun other hOther =>
          hJobs other (List.mem_cons_of_mem _ hOther)
      intro workspace hDisk
      have hJob :=
        hJobs job List.mem_cons_self workspace.disk hDisk
      rw [outcome_runJobs_cons]
      rcases hOutcome : outcome job.run workspace.disk with
        ⟨_ | ⟨⟩, disk⟩
      · rw [hOutcome] at hJob
        exact hJob
      · rw [hOutcome] at hJob
        exact hRest _ hJob

/- So does a batch of them. -/
theorem runBatch
    {jobs : List Job}
    (hJobs : ∀ job ∈ jobs, Preserves holds job.run) :
    Preserves (fun workspace : Workspace => holds workspace.disk)
      (TextMate.runBatch jobs) := by
  refine bind (runJobs hJobs) fun outcomes => ?_
  split
  · exact pure _
  · exact throw _

end Preserves

/- Every job keeps a disk rooted. -/
theorem Job.rooted_run
    (job : Job) :
    Preserves Disk.Rooted job.run := by
  cases job with
  | write target contents =>
      exact Disk.rooted_writeDeep target contents
  | copy source target => exact Disk.rooted_copy source target

------------------------------------------------------------
-- Batches that Fail
------------------------------------------------------------

/- Jobs that fail are reported, and do not stop a run. -/
theorem failsOnly_runJobs
    {kind : Error → Prop}
    (jobs : List Job) :
    FailsOnly kind (runJobs jobs) := by
  induction jobs with
  | nil => exact .pure []
  | cons job jobs ih =>
      refine .bind nofun fun result => ?_
      split
      · refine .bind (.change _) fun _ => ?_
        exact ih.bind fun _ => .pure _
      · exact .pure _

/- A batch fails as a whole. -/
theorem failsOnly_runBatch
    {kind : Error → Prop}
    (hBatch : ∀ failure, kind (.batchWrite failure))
    (jobs : List Job) :
    FailsOnly kind (runBatch jobs) := by
  refine (failsOnly_runJobs jobs).bind fun outcomes => ?_
  split
  · exact .pure _
  · exact .throw (hBatch _)

------------------------------------------------------------
-- Batches that Succeed
------------------------------------------------------------

/- All jobs succeed, each on the disk that the last one left. -/
inductive Completes : List Job → Disk → Disk → Prop where
  | nil
      {disk : Disk} :
      Completes [] disk disk
  | cons
      {job : Job}
      {jobs : List Job}
      {before between after : Disk}
      (hJob : outcome job.run before = (.ok (), between))
      (hRest : Completes jobs between after) :
      Completes (job :: jobs) before after

/- Jobs that are all done are completed. -/
theorem completes_of_runJobs
    {jobs : List Job}
    {workspace after : Workspace}
    {outcomes : List (String × Outcome)}
    (hRun :
      outcome (runJobs jobs) workspace = (.ok outcomes, after))
    (hDone : allDone outcomes) :
    Completes jobs workspace.disk after.disk := by
  induction jobs generalizing workspace outcomes with
  | nil =>
      cases hRun
      exact .nil
  | cons job jobs ih =>
      rw [outcome_runJobs_cons] at hRun
      rcases hJob : outcome job.run workspace.disk with
        ⟨_ | ⟨⟩, disk⟩
      · rw [hJob] at hRun
        cases hRun
        cases hDone
      · rw [hJob] at hRun
        dsimp only at hRun
        rcases hRest : outcome (runJobs jobs) _ with
          ⟨_ | others, last⟩
        · rw [hRest] at hRun
          cases hRun
        · rw [hRest] at hRun
          cases hRun
          exact .cons hJob (ih hRest hDone)

/- A batch that succeeds completes its jobs. -/
theorem completes_of_runBatch
    {jobs : List Job}
    {workspace after : Workspace}
    {targets : List String}
    (hRun :
      outcome (runBatch jobs) workspace = (.ok targets, after)) :
    targets = jobs.map Job.target ∧
      Completes jobs workspace.disk after.disk := by
  rcases outcome_bind_eq_ok_iff.mp hRun with
    ⟨outcomes, between, hJobs, hResult⟩
  split at hResult
  · rename_i hDone
    cases hResult
    exact ⟨rfl, completes_of_runJobs hJobs hDone⟩
  · cases hResult

------------------------------------------------------------
-- Configuration Files
------------------------------------------------------------

/- Every file to copy of the folder is copied, and no other. -/
theorem mem_copyJobs_iff
    {disk : Disk}
    {folder outFolder : String}
    {names : List String}
    {job : Job} :
    job ∈ copyJobs disk folder outFolder names ↔
      ∃ name ∈ names, isConfig disk folder name ∧
        job =
          .copy (Path.join folder name)
            (Path.join outFolder name) := by
  unfold copyJobs
  rw [List.mem_map]
  simp only [List.mem_mergeSort, List.mem_filter, and_assoc,
    eq_comm]

/- A folder that can be listed is one, and gives its names. -/
theorem listFolder_eq_ok_iff
    {disk : Disk}
    {path : String}
    {names : List String} :
    listFolder disk path = .ok names ↔
      ∃ place, disk.resolve path = .ok place ∧
        disk.entryAt? place = some .folder ∧
        names = disk.names place := by
  unfold listFolder
  rcases disk.resolve path with _ | place
  · simp
  · simp only [Except.ok.injEq, exists_eq_left']
    rcases disk.entryAt? place with _ | _ | _
    · simp
    · simp [eq_comm]
    · simp

/- The folder is listed, and then its files are copied. -/
theorem outcome_copyConfigs
    (folder outFolder : String)
    (workspace : Workspace) :
    outcome (copyConfigs folder outFolder) workspace =
      match listFolder workspace.disk folder with
      | .error cause => (.error (.io folder cause), workspace)
      | .ok names =>
          outcome
            (runBatch
              (copyJobs workspace.disk folder outFolder names))
            workspace := by
  unfold copyConfigs
  simp only [outcome_bind, Action.outcome_query]
  cases listFolder workspace.disk folder <;> rfl

/-
  On a disk with names only, copying the files of a folder
  preserves what copying under each name preserves.
-/
theorem holds_copyConfigs
    {holds : Disk → Prop}
    {folder outFolder : String}
    {workspace : Workspace}
    (hNamed : workspace.disk.Named)
    (hCopy :
      ∀ name, Path.IsName name →
        Preserves holds
          (Disk.copy (Path.join folder name)
            (Path.join outFolder name)))
    (hDisk : holds workspace.disk) :
    holds
      (outcome (copyConfigs folder outFolder)
        workspace).2.disk := by
  rw [outcome_copyConfigs]
  split
  · exact hDisk
  · rename_i names hNames
    rcases listFolder_eq_ok_iff.mp hNames with
      ⟨place, -, -, rfl⟩
    refine Preserves.runBatch ?_ workspace hDisk
    intro job hJob
    rcases mem_copyJobs_iff.mp hJob with ⟨name, hName, -, rfl⟩
    exact hCopy name (hNamed.isName hName)

/- If it succeeds then the copies are completed. -/
theorem completes_of_copyConfigs
    {folder outFolder : String}
    {workspace after : Workspace}
    {copied : List String}
    (hRun :
      outcome (copyConfigs folder outFolder) workspace =
        (.ok copied, after)) :
    ∃ names,
      listFolder workspace.disk folder = .ok names ∧
        copied =
          (copyJobs workspace.disk folder outFolder names).map
            Job.target ∧
        Completes
          (copyJobs workspace.disk folder outFolder names)
          workspace.disk after.disk := by
  rw [outcome_copyConfigs] at hRun
  split at hRun
  · cases hRun
  · rename_i names hNames
    rcases completes_of_runBatch hRun with ⟨hCopied, hJobs⟩
    exact ⟨names, hNames, hCopied, hJobs⟩

end TextMate
