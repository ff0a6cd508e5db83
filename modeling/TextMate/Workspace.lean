import TextMate.Disk.Access
import TextMate.Document.Reader
import TextMate.Error
import TextMate.Formatter.Style

/-
  This file defines actions: computations that work on a disk,
  keep a log and may fail.

  Key definitions include:
    * `Workspace`
    * `Action`
    * `Action.collect`
    * `Action.ofAccess`
    * `loadDocument`
    * `loadStyle`
-/

namespace TextMate

------------------------------------------------------------
-- Tasks
------------------------------------------------------------

/- A disk, and the log of what is done on it. -/
structure Workspace where
  disk : Disk
  log : List LogRecord

/- A computation on a workspace that may fail. -/
abbrev Action := ExceptT Error (StateM Workspace)

namespace Action

/- The value of a computation that may have failed. -/
def ofExcept
    {α : Type}
    (result : Except Error α) : Action α :=
  match result with
  | .ok value => return value
  | .error error => throw error

/- Write a text to the log. -/
def note
    (text : String) : Action Unit :=
  modify fun workspace =>
    { workspace with
      log := workspace.log ++ [⟨.info, text⟩] }

/-
  Run a computation with a journal of its own.  Its log is
  kept, and its diagnostics are given with its result.
-/
def collect
    {α : Type}
    (run : Run α) :
    Action (Except Error α × List Diagnostic) := do
  let (result, journal) := run.start .empty
  modify fun workspace =>
    { workspace with log := workspace.log ++ journal.log }
  return (result, journal.diagnostics)

/- Run an operation on the disk, with its own failure. -/
def attempt
    {α : Type}
    (access : Disk.Access α) : Action (Except OsError α) := do
  let workspace ← get
  let (result, disk) := (ExceptT.run access).run workspace.disk
  set { workspace with disk := disk }
  return result

/- Run an operation on the disk for a path. -/
def ofAccess
    {α : Type}
    (path : String)
    (access : Disk.Access α) : Action α := do
  match ← attempt access with
  | .ok value => return value
  | .error cause => throw (.io path cause)

/- Read the disk. -/
def query
    {α : Type}
    (read : Disk → Except Error α) : Action α := do
  ofExcept (read (← get).disk)

end Action

------------------------------------------------------------
-- Loading
------------------------------------------------------------

/-
  Read a file as JSON.  A folder can be opened like a file, so
  it fails only when it is read.
-/
def loadJson
    {α : Type}
    (ofText : String → Except Json.Failure α)
    (disk : Disk)
    (path : String) : Except Error α :=
  match disk.find path with
  | .error cause => .error (.io path cause)
  | .ok .folder => .error (.json (.unreadable .isDirectory))
  | .ok (.file contents _) =>
      (ofText contents).mapError fun failure =>
        .json (.text failure)

def loadDocument
    (disk : Disk)
    (path : String) : Except Error Document :=
  loadJson (Document.ofText .stream) disk path

/- The layout settings of a file. -/
def loadStyle
    (disk : Disk)
    (path : String) : Except Error Style :=
  loadJson (Style.ofText .stream) disk path

end TextMate
