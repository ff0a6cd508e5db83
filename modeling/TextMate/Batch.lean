import TextMate.Workspace

/-
  This file defines batches of writes and copies.  A batch
  stops at its first failure, and the jobs behind it are
  cancelled.

  Key definitions include:
    * `Job`
    * `Job.run`
    * `runJobs`
    * `runBatch`
    * `copyJobs`
    * `copyConfigs`
-/

namespace TextMate

------------------------------------------------------------
-- Jobs
------------------------------------------------------------

/- A file to write, or to copy. -/
inductive Job where
  | write (target : String) (contents : String)
  | copy (source : String) (target : String)
deriving DecidableEq

namespace Job

/- The path of the file that a job leaves. -/
def target : Job → String
  | .write target _ => target
  | .copy _ target => target

def run : Job → Disk.Access Unit
  | .write target contents => Disk.writeDeep target contents
  | .copy source target => Disk.copy source target

end Job

------------------------------------------------------------
-- Batches
------------------------------------------------------------

/- Every target is done. -/
def allDone
    (outcomes : List (String × Outcome)) : Bool :=
  outcomes.all fun (_, outcome) => outcome == .done

/- Jobs that are not started any more. -/
def cancelAll
    (jobs : List Job) : List (String × Outcome) :=
  jobs.map fun job => (job.target, .cancelled)

/- Do jobs in order, up to the first that fails. -/
def runJobs : List Job → Action (List (String × Outcome))
  | [] => return []
  | job :: jobs => do
      match ← Action.attempt job.run with
      | .ok () =>
          Action.note ("Wrote '" ++ job.target ++ "'")
          let outcomes ← runJobs jobs
          return (job.target, .done) :: outcomes
      | .error cause =>
          return (job.target, .failed cause.message) ::
            cancelAll jobs

/- Do all jobs and give their targets, or the failed batch. -/
def runBatch
    (jobs : List Job) : Action (List String) := do
  let outcomes ← runJobs jobs
  if allDone outcomes then return jobs.map Job.target
  else throw (.batchWrite ⟨outcomes⟩)

------------------------------------------------------------
-- Configuration Files
------------------------------------------------------------

/- The extension of the files that are copied. -/
def configExtension : String := "json"

/- The name in a folder is that of a file to copy. -/
def isConfig
    (disk : Disk)
    (folder : String)
    (name : String) : Bool :=
  disk.isFile (Path.join folder name) &&
    Path.hasExtension configExtension name

/- The order of names by their characters. -/
def precedes
    (x y : String) : Bool :=
  decide (x ≤ y)

/-
  The jobs that copy files of a folder, by name.  The names of
  the folder may be listed in any order.
-/
def copyJobs
    (disk : Disk)
    (folder : String)
    (outFolder : String)
    (names : List String) : List Job :=
  let chosen := names.filter (isConfig disk folder)
  (chosen.mergeSort precedes).map fun name =>
    .copy (Path.join folder name) (Path.join outFolder name)

/- The names in the folder that a path leads to. -/
def listFolder
    (disk : Disk)
    (path : String) : Except OsError (List String) :=
  match disk.resolve path with
  | .error cause => .error cause
  | .ok place =>
      match disk.entryAt? place with
      | some .folder => .ok (disk.names place)
      | _ => .error .notDirectory

/- Copy the configuration files of a folder to another. -/
def copyConfigs
    (folder : String)
    (outFolder : String) : Action (List String) := do
  let names ← Action.query fun disk =>
    (listFolder disk folder).mapError fun cause =>
      .io folder cause
  runBatch
    (copyJobs (← get).disk folder outFolder names)

end TextMate
