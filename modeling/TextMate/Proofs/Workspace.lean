import TextMate.Proofs.Computation
import TextMate.Workspace

/-
  This file states what the parts of an action give and leave.

  An action changes a disk by operations on it alone, so its
  other parts leave it as it is.

  Main declarations:
    * `Workspace.On`
    * `Action.keepsDisk_query`, `Action.keepsDisk_ofExcept`
    * `Action.outcome_query`
    * `Action.outcome_attempt`
    * `Action.outcome_ofAccess`
-/

namespace TextMate

variable {α : Type}

/- The disk of a workspace is a given one. -/
def Workspace.On
    (disk : Disk)
    (workspace : Workspace) : Prop :=
  workspace.disk = disk

namespace Action

@[simp] theorem outcome_ofExcept
    (result : Except Error α)
    (workspace : Workspace) :
    outcome (ofExcept result) workspace = (result, workspace) := by
  cases result <;> rfl

@[simp] theorem outcome_note
    (text : String)
    (workspace : Workspace) :
    outcome (note text) workspace =
      (.ok (),
        { workspace with
          log := workspace.log ++ [⟨.info, text⟩] }) := rfl

/- A run of its own gives its result, and adds to the log. -/
theorem outcome_collect
    (run : Run α)
    (workspace : Workspace) :
    outcome (collect run) workspace =
      (.ok ((run.start .empty).1,
          (run.start .empty).2.diagnostics),
        { workspace with
          log := workspace.log ++ (run.start .empty).2.log }) :=
  rfl

@[simp] theorem outcome_query
    (read : Disk → Except Error α)
    (workspace : Workspace) :
    outcome (query read) workspace =
      (read workspace.disk, workspace) := by
  unfold query
  simp only [outcome_bind, outcome_get, outcome_ofExcept]

@[simp] theorem outcome_attempt
    (access : Disk.Access α)
    (workspace : Workspace) :
    outcome (attempt access) workspace =
      (.ok (outcome access workspace.disk).1,
        { workspace with
          disk := (outcome access workspace.disk).2 }) := rfl

/- An operation on the disk fails for its path. -/
theorem outcome_ofAccess
    (path : String)
    (access : Disk.Access α)
    (workspace : Workspace) :
    outcome (ofAccess path access) workspace =
      match outcome access workspace.disk with
      | (.ok value, disk) =>
          (.ok value, { workspace with disk := disk })
      | (.error cause, disk) =>
          (.error (.io path cause),
            { workspace with disk := disk }) := by
  unfold ofAccess
  simp only [outcome_bind, outcome_attempt]
  rcases outcome access workspace.disk with ⟨_ | _, _⟩ <;> rfl

/- It preserves of the disk what it does on the disk alone. -/
theorem preserves_ofAccess
    {holds : Disk → Prop}
    {access : Disk.Access α}
    (hAccess : Preserves holds access)
    (path : String) :
    Preserves (fun workspace : Workspace => holds workspace.disk)
      (ofAccess path access) := by
  intro workspace hDisk
  have hAfter := hAccess workspace.disk hDisk
  rw [outcome_ofAccess]
  split
  · rename_i hRun
    rwa [hRun] at hAfter
  · rename_i hRun
    rwa [hRun] at hAfter

/- Reading the disk leaves it alone. -/
theorem keepsDisk_query
    (disk : Disk)
    (read : Disk → Except Error α) :
    Preserves (Workspace.On disk) (query read) := by
  intro workspace hDisk
  rw [outcome_query]
  exact hDisk

/- So does what does not read it. -/
theorem keepsDisk_ofExcept
    (disk : Disk)
    (result : Except Error α) :
    Preserves (Workspace.On disk) (ofExcept result) := by
  intro workspace hDisk
  rw [outcome_ofExcept]
  exact hDisk

/- The log is not on the disk. -/
theorem keepsDisk_note
    (disk : Disk)
    (text : String) :
    Preserves (Workspace.On disk) (note text) :=
  fun _ hDisk => hDisk

theorem keepsDisk_collect
    (disk : Disk)
    (run : Run α) :
    Preserves (Workspace.On disk) (collect run) :=
  fun _ hDisk => hDisk

end Action

end TextMate
