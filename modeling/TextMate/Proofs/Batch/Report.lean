import TextMate.Proofs.Batch

/-
  This file proves that a batch stops at its first failure, and
  that its report describes the disk.

  Jobs are completed, or they halt: some are completed, the next
  one fails, and those behind it are cancelled.  Which of these
  happens is said of the jobs and the disk alone, and then the
  result, the disk and the log of the batch follow.

  Main declarations:
    * `Halt`
    * `Halt.Occurs`
    * `completes_or_halts`
    * `outcome_runJobs_of_completes`
    * `outcome_runJobs_of_occurs`
    * `message_failure`
    * `runBatch_reports`
-/

namespace TextMate

------------------------------------------------------------
-- Halts
------------------------------------------------------------

/- How jobs are parted by the one that fails. -/
structure Halt where
  done : List Job
  failed : Job
  cause : OsError
  cancelled : List Job

namespace Halt

/- The jobs, in order. -/
def jobs
    (halt : Halt) : List Job :=
  halt.done ++ halt.failed :: halt.cancelled

/-
  The jobs halt: those before the failure succeed, then it
  happens, and nothing is done after it.
-/
def Occurs
    (halt : Halt)
    (before after : Disk) : Prop :=
  ∃ between, Completes halt.done before between ∧
    outcome halt.failed.run between = (.error halt.cause, after)

/- The report of the jobs. -/
def failure
    (halt : Halt) : BatchFailure where
  outcomes :=
    halt.done.map (fun job => (job.target, .done)) ++
      (halt.failed.target, .failed halt.cause.message) ::
        halt.cancelled.map fun job => (job.target, .cancelled)

end Halt

/- Jobs are all completed, or they halt at some job. -/
theorem completes_or_halts
    (jobs : List Job)
    (disk : Disk) :
    (∃ after, Completes jobs disk after) ∨
      ∃ halt after, halt.jobs = jobs ∧
        Halt.Occurs halt disk after := by
  induction jobs generalizing disk with
  | nil => exact Or.inl ⟨disk, .nil⟩
  | cons job jobs ih =>
      rcases hJob : outcome job.run disk with
        ⟨cause | ⟨⟩, between⟩
      · exact
          Or.inr
            ⟨⟨[], job, cause, jobs⟩, between, rfl, disk, .nil,
              hJob⟩
      · rcases ih between with
          ⟨after, hAll⟩ |
            ⟨halt, after, rfl, last, hDone, hFailed⟩
        · exact Or.inl ⟨after, .cons hJob hAll⟩
        · exact
            Or.inr
              ⟨{ halt with done := job :: halt.done }, after,
                rfl, last, .cons hJob hDone, hFailed⟩

------------------------------------------------------------
-- Runs of Jobs
------------------------------------------------------------

/- What is logged about a job that is done. -/
def Job.record
    (job : Job) : LogRecord :=
  ⟨.info, "Wrote '" ++ job.target ++ "'"⟩

/- The workspace after some jobs are done. -/
def Workspace.wrote
    (workspace : Workspace)
    (jobs : List Job)
    (disk : Disk) : Workspace :=
  ⟨disk, workspace.log ++ jobs.map Job.record⟩

/-
  Jobs that are completed are reported as done, in front of what
  is reported of the jobs behind them.
-/
theorem outcome_runJobs_append
    {jobs others : List Job}
    {workspace last : Workspace}
    {between : Disk}
    {outcomes : List (String × Outcome)}
    (hDone : Completes jobs workspace.disk between)
    (hOthers :
      outcome (runJobs others) (workspace.wrote jobs between) =
        (.ok outcomes, last)) :
    outcome (runJobs (jobs ++ others)) workspace =
      (.ok
        (jobs.map (fun job => (job.target, .done)) ++ outcomes),
        last) := by
  induction jobs generalizing workspace with
  | nil =>
      cases hDone
      rw [Workspace.wrote, List.map_nil, List.append_nil]
        at hOthers
      exact hOthers
  | cons job jobs ih =>
      cases hDone with
      | @cons _ _ _ disk _ hJob hRest =>
          -- The others start behind what is logged of this job.
          have hNext :
              (workspace.wrote [job] disk).wrote jobs between =
                workspace.wrote (job :: jobs) between := by
            simp [Workspace.wrote]
          have hTail :=
            @ih (workspace.wrote [job] disk) hRest
              (hNext ▸ hOthers)
          rw [List.cons_append, outcome_runJobs_cons, hJob]
          simp only [Workspace.wrote, Job.record, List.map_cons,
            List.map_nil] at hTail
          simp only [hTail]
          rfl

/- Jobs that are completed are all reported as done. -/
theorem outcome_runJobs_of_completes
    {jobs : List Job}
    {workspace : Workspace}
    {after : Disk}
    (hDone : Completes jobs workspace.disk after) :
    outcome (runJobs jobs) workspace =
      (.ok (jobs.map fun job => (job.target, .done)),
        workspace.wrote jobs after) := by
  have hNone :
      outcome (runJobs []) (workspace.wrote jobs after) =
        (.ok [], workspace.wrote jobs after) := rfl
  have hAll := outcome_runJobs_append hDone hNone
  rw [List.append_nil, List.append_nil] at hAll
  exact hAll

namespace Halt

variable {halt : Halt}

/-
  Jobs that halt are reported up to the failure as what they
  are, and nothing is done or logged after it.
-/
theorem outcome_runJobs_of_occurs
    {workspace : Workspace}
    {after : Disk}
    (hOccurs : halt.Occurs workspace.disk after) :
    outcome (runJobs halt.jobs) workspace =
      (.ok halt.failure.outcomes,
        workspace.wrote halt.done after) := by
  rcases hOccurs with ⟨between, hDone, hFailed⟩
  have hRest :
      outcome (runJobs (halt.failed :: halt.cancelled))
          (workspace.wrote halt.done between) =
        (.ok
          ((halt.failed.target, .failed halt.cause.message) ::
            halt.cancelled.map fun job =>
              (job.target, .cancelled)),
          workspace.wrote halt.done after) := by
    rw [outcome_runJobs_cons, Workspace.wrote, hFailed]
    rfl
  exact outcome_runJobs_append hDone hRest

------------------------------------------------------------
-- Reports of Halts
------------------------------------------------------------

/- Every target is reported, in order. -/
theorem targets_failure
    (halt : Halt) :
    halt.failure.outcomes.map Prod.fst =
      halt.jobs.map Job.target := by
  simp [failure, jobs, Function.comp_def]

/- The failure is the only one that is reported. -/
theorem failed_failure
    (halt : Halt) :
    halt.failure.failed =
      [(halt.failed.target, halt.cause.message)] := by
  have hOthers :
      ∀ (jobs : List Job) (result : Outcome),
        BatchFailure.failureText? result = none →
          BatchFailure.failed
              ⟨jobs.map fun job => (job.target, result)⟩ =
            [] := by
    intro jobs result hResult
    simp [BatchFailure.failed, hResult]
  have hDone := hOthers halt.done .done rfl
  have hCancelled := hOthers halt.cancelled .cancelled rfl
  unfold BatchFailure.failed at hDone hCancelled ⊢
  rw [failure, List.filterMap_append, List.filterMap_cons,
    hDone, hCancelled]
  rfl

/- How many jobs have an outcome that passes a test. -/
theorem count_failure
    (halt : Halt)
    (test : Outcome → Bool) :
    halt.failure.count test =
      (if test .done then halt.done.length else 0) +
        ((if test .cancelled then halt.cancelled.length
            else 0) +
          if test (.failed halt.cause.message) then 1
          else 0) := by
  have hSame :
      ∀ (jobs : List Job) (result : Outcome),
        (jobs.map fun job => (job.target, result)).countP
            (fun entry => test entry.2) =
          if test result then jobs.length else 0 := by
    intro jobs result
    rw [List.countP_map]
    cases hTest : test result <;>
      simp [Function.comp_def, hTest]
  rw [BatchFailure.count, failure, List.countP_append,
    List.countP_cons, hSame, hSame]

/-
  The text of the report: how many targets there are of each
  kind, and a line for the one that failed.
-/
theorem message_failure
    (halt : Halt) :
    halt.failure.message =
      "1 of " ++ toString halt.jobs.length ++
        " writes failed (" ++ toString halt.done.length ++
        " done, " ++ toString halt.cancelled.length ++
        " cancelled)" ++ "\n  " ++ halt.failed.target ++ ": " ++
        halt.cause.message := by
  have hLength :
      halt.failure.outcomes.length = halt.jobs.length := by
    have hTargets := congrArg List.length halt.targets_failure
    rwa [List.length_map, List.length_map] at hTargets
  have hFailed :
      halt.failure.count
          (fun result =>
            (BatchFailure.failureText? result).isSome) = 1 := by
    simp [count_failure, BatchFailure.failureText?]
  have hDone :
      halt.failure.count (· == .done) = halt.done.length := by
    simp [count_failure]
  have hCancelled :
      halt.failure.count (· == .cancelled) =
        halt.cancelled.length := by
    simp [count_failure]
  have hOne : toString 1 ++ " of " = "1 of " := rfl
  rw [BatchFailure.message, failed_failure, hLength, hFailed,
    hDone, hCancelled, hOne]
  simp only [BatchFailure.failedLine, List.map_cons,
    List.map_nil, String.join_cons, String.join_nil,
    String.append_empty, String.append_assoc]

/- A batch with a failure is not done. -/
theorem not_allDone_failure
    (halt : Halt) :
    allDone halt.failure.outcomes = false := by
  simp [allDone, failure]

end Halt

------------------------------------------------------------
-- Batches
------------------------------------------------------------

/- A batch is judged by the outcomes of its jobs. -/
theorem outcome_runBatch_of_runJobs
    {jobs : List Job}
    {workspace last : Workspace}
    {outcomes : List (String × Outcome)}
    (hJobs :
      outcome (runJobs jobs) workspace = (.ok outcomes, last)) :
    outcome (runBatch jobs) workspace =
      (if allDone outcomes then .ok (jobs.map Job.target)
        else .error (.batchWrite ⟨outcomes⟩), last) := by
  rw [runBatch, outcome_bind, hJobs]
  cases hDone : allDone outcomes
  · simp only [hDone]
    rfl
  · simp only [hDone]
    rfl

/-
  A batch whose jobs all succeed gives all targets in order, and
  leaves the disk of all jobs.  Otherwise its jobs halt at the
  first failure: the error lists every target in order, those
  before the failure as done and those behind it as cancelled,
  and the disk is that of the jobs up to the failure alone.
-/
theorem runBatch_reports
    (jobs : List Job)
    (workspace : Workspace) :
    (∀ after, Completes jobs workspace.disk after →
        outcome (runBatch jobs) workspace =
          (.ok (jobs.map Job.target),
            workspace.wrote jobs after)) ∧
      (∀ halt after, Halt.jobs halt = jobs →
        halt.Occurs workspace.disk after →
          outcome (runBatch jobs) workspace =
              (.error (.batchWrite halt.failure),
                workspace.wrote halt.done after) ∧
            halt.failure.outcomes.map Prod.fst =
              jobs.map Job.target ∧
            halt.failure.failed =
              [(halt.failed.target, halt.cause.message)] ∧
            halt.failure.message =
              "1 of " ++ toString jobs.length ++
                " writes failed (" ++
                toString halt.done.length ++ " done, " ++
                toString halt.cancelled.length ++
                " cancelled)" ++ "\n  " ++
                halt.failed.target ++ ": " ++
                halt.cause.message ∧
            1 + halt.done.length + halt.cancelled.length =
              jobs.length) ∧
      ((∃ after, Completes jobs workspace.disk after) ∨
        ∃ halt after, Halt.jobs halt = jobs ∧
          halt.Occurs workspace.disk after) := by
  refine ⟨?_, ?_, completes_or_halts jobs workspace.disk⟩
  · intro after hDone
    have hAll :
        allDone (jobs.map fun job => (job.target, .done)) := by
      simp [allDone]
    rw [outcome_runBatch_of_runJobs
      (outcome_runJobs_of_completes hDone), if_pos hAll]
  · rintro halt after rfl hOccurs
    have hRun :=
      outcome_runBatch_of_runJobs
        (halt.outcome_runJobs_of_occurs hOccurs)
    rw [halt.not_allDone_failure] at hRun
    have hCount :
        1 + halt.done.length + halt.cancelled.length =
          halt.jobs.length := by
      rw [Halt.jobs, List.length_append, List.length_cons]
      omega
    exact
      ⟨hRun, halt.targets_failure, halt.failed_failure,
        halt.message_failure, hCount⟩

/- A disk with a file where a folder is to be made. -/
def blockedDisk : Disk where
  entries := [(["blocker"], .file "" false)]
  workFolder := []

/- The second of four files is to be written in that folder. -/
def blockedHalt : Halt where
  done := [.write "a.rs" "a"]
  failed := .write "blocker/b.rs" "b"
  cause := .fileExists
  cancelled := [.write "c.rs" "c", .copy "a.rs" "d.rs"]

/- The first file is written, and the last two are not. -/
theorem runBatch_reports_blockedHalt :
    let jobs : List Job :=
      [.write "a.rs" "a", .write "blocker/b.rs" "b",
        .write "c.rs" "c", .copy "a.rs" "d.rs"]
    let disk : Disk :=
      ⟨[(["blocker"], .file "" false),
        (["a.rs"], .file "a" false)], []⟩
    blockedHalt.jobs = jobs ∧
      blockedHalt.Occurs blockedDisk disk ∧
      outcome (runBatch jobs) ⟨blockedDisk, []⟩ =
        (.error (.batchWrite blockedHalt.failure),
          ⟨disk, [⟨.info, "Wrote 'a.rs'"⟩]⟩) ∧
      blockedHalt.failure.message =
        "1 of 4 writes failed (1 done, 2 cancelled)" ++
          "\n  blocker/b.rs: File exists (os error 17)" := by
  intro jobs disk
  have hDone :
      outcome (Job.write "a.rs" "a").run blockedDisk =
        (.ok (), disk) := by
    decide +kernel
  have hFailed :
      outcome blockedHalt.failed.run disk =
        (.error .fileExists, disk) := by
    decide +kernel
  have hOccurs : blockedHalt.Occurs blockedDisk disk :=
    ⟨disk, .cons hDone .nil, hFailed⟩
  have hReport :=
    (runBatch_reports jobs ⟨blockedDisk, []⟩).2.1 blockedHalt
      disk rfl hOccurs
  refine ⟨rfl, hOccurs, hReport.1, hReport.2.2.2.1.trans ?_⟩
  decide +kernel

end TextMate
