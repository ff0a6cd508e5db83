import TextMate.Proofs.Computation
import TextMate.Proofs.Disk.Walk

/-
  This file states what each operation on a disk gives and
  leaves, from what the paths lead to on it.

  Main declarations:
    * `Disk.outcome_makeFolder`
    * `Disk.outcome_removeAll`
    * `Disk.outcome_write`
    * `Disk.outcome_copy_eq_ok_iff`
-/

namespace TextMate

namespace Disk

variable {α : Type}

------------------------------------------------------------
-- Parts of Operations
------------------------------------------------------------

@[simp] theorem outcome_query
    (read : Disk → Except OsError α)
    (disk : Disk) :
    outcome (query read) disk = (read disk, disk) := by
  unfold query
  simp only [outcome_bind, outcome_get]
  cases read disk <;> rfl

/- A part that may fail on its own gives its result. -/
@[simp] theorem outcome_attempt
    (action : Access α)
    (disk : Disk) :
    outcome (attempt action) disk =
      (.ok (outcome action disk).1,
        (outcome action disk).2) := rfl

------------------------------------------------------------
-- Folders
------------------------------------------------------------

/- A folder is made where a path leads to a name that is free. -/
theorem outcome_makeFolder
    (path : String)
    (disk : Disk) :
    outcome (makeFolder path) disk =
      match disk.locate path with
      | .error error => (.error error, disk)
      | .ok (.named folder name) =>
          if disk.has (folder ++ [name]) then
            (.error .fileExists, disk)
          else (.ok (), disk.put (folder ++ [name]) .folder)
      | .ok .stay | .ok .up | .ok .root =>
          (.error .fileExists, disk) := by
  unfold makeFolder
  rw [outcome_bind, outcome_query]
  rcases disk.locate path with _ | ⟨folder, name⟩ | _ | _ | _
  · rfl
  · simp only [outcome_bind, outcome_get]
    by_cases hHas : disk.has (folder ++ [name])
    · simp only [if_pos hHas]
      rfl
    · simp only [if_neg hHas]
      rfl
  · rfl
  · rfl
  · rfl

/- A folder is removed where a path leads to an empty one. -/
theorem outcome_removeFolder
    (path : String)
    (disk : Disk) :
    outcome (removeFolder path) disk =
      match disk.locate path with
      | .error error => (.error error, disk)
      | .ok (.named folder name) =>
          match disk.entryAt? (folder ++ [name]) with
          | none => (.error .notFound, disk)
          | some (.file _ _) => (.error .notDirectory, disk)
          | some .folder =>
              if disk.names (folder ++ [name]) ≠ [] then
                (.error .directoryNotEmpty, disk)
              else (.ok (), disk.erase (folder ++ [name]))
      | .ok .stay => (.error .invalidArgument, disk)
      | .ok .up => (.error .directoryNotEmpty, disk)
      | .ok .root => (.error .busy, disk) := by
  unfold removeFolder
  rw [outcome_bind, outcome_query]
  rcases disk.locate path with _ | ⟨folder, name⟩ | _ | _ | _
  · rfl
  · simp only [outcome_bind, outcome_get]
    rcases disk.entryAt? (folder ++ [name]) with _ | _ | _
    · rfl
    · simp only
      by_cases hNames : disk.names (folder ++ [name]) ≠ []
      · simp only [if_pos hNames]
        rfl
      · simp only [if_neg hNames]
        rfl
    · rfl
  · rfl
  · rfl
  · rfl

/- What removing the folder itself makes of its result. -/
def removed : Except OsError Unit → Except OsError Unit
  | .ok () | .error .notFound => .ok ()
  | .error error => .error error

/- A folder is cleared before it is removed. -/
theorem outcome_removeAll
    (path : String)
    (disk : Disk) :
    outcome (removeAll path) disk =
      match disk.resolve path with
      | .error error => (.error error, disk)
      | .ok place =>
          match disk.entryAt? place with
          | some .folder =>
              let last :=
                outcome (removeFolder path)
                  (disk.clearBelow place)
              (removed last.1, last.2)
          | _ => (.error .notDirectory, disk) := by
  unfold removeAll
  rw [outcome_bind, outcome_query]
  rcases disk.resolve path with _ | place
  · rfl
  · simp only [outcome_bind, outcome_get]
    rcases disk.entryAt? place with _ | _ | _
    · rfl
    · simp only [outcome_bind, outcome_modify,
        outcome_attempt]
      rcases
        outcome (removeFolder path) (disk.clearBelow place) with
        ⟨error | _, after⟩
      · cases error <;> rfl
      · rfl
    · rfl

------------------------------------------------------------
-- Files
------------------------------------------------------------

/- A file is written where a path leads to a name. -/
theorem outcome_write
    (path contents : String)
    (disk : Disk) :
    outcome (write path contents) disk =
      match disk.writable path with
      | .error error => (.error error, disk)
      | .ok place =>
          (.ok (),
            disk.put place
              (.file contents (disk.isProgram place))) := by
  unfold write
  rw [outcome_bind, outcome_query]
  rcases disk.writable path with _ | place <;> rfl

/- A file is copied once its target was emptied. -/
theorem outcome_copy
    (source target : String)
    (disk : Disk) :
    outcome (copy source target) disk =
      match disk.find source with
      | .error error => (.error error, disk)
      | .ok .folder => (.error .notFile, disk)
      | .ok (.file _ isExecutable) =>
          match disk.writable target with
          | .error error => (.error error, disk)
          | .ok place =>
              let emptied :=
                disk.put place (.file "" isExecutable)
              match emptied.find source with
              | .error error => (.error error, emptied)
              | .ok .folder =>
                  (.error .notFile, emptied)
              | .ok (.file contents _) =>
                  (.ok (),
                    emptied.put place
                      (.file contents isExecutable)) := by
  unfold copy
  rw [outcome_bind, outcome_query]
  rcases disk.find source with _ | _ | ⟨_, isExecutable⟩
  · rfl
  · rfl
  · simp only [outcome_bind, outcome_query]
    rcases disk.writable target with _ | place
    · rfl
    · simp only [outcome_modify]
      rcases (disk.put place (.file "" isExecutable)).find
        source with _ | _ | _ <;> rfl

end Disk

end TextMate
