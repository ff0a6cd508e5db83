import TextMate.Diagnostic
import TextMate.Disk.OsError
import TextMate.Json.Fault

/-
  This file defines the errors that stop a run, with their
  texts, and runs that keep a journal.

  Key definitions include:
    * `Outcome`
    * `BatchFailure`
    * `ReadFailure`
    * `Error`
    * `Error.message`
    * `Error.source?`
    * `Run`
-/

namespace TextMate

------------------------------------------------------------
-- Batches
------------------------------------------------------------

/- What happened to a target of a batch of writes. -/
inductive Outcome where
  | done
  | failed (message : String)
  | cancelled
deriving DecidableEq

/- A failed batch: each target in order with its outcome. -/
structure BatchFailure where
  outcomes : List (String × Outcome)
deriving DecidableEq

namespace BatchFailure

def failureText? : Outcome → Option String
  | .failed message => some message
  | _ => none

/- The targets that failed, with the text of the failure. -/
def failed
    (failure : BatchFailure) : List (String × String) :=
  failure.outcomes.filterMap fun (path, outcome) =>
    (failureText? outcome).map fun message => (path, message)

/- The number of targets whose outcome passes a test. -/
def count
    (failure : BatchFailure)
    (test : Outcome → Bool) : Nat :=
  failure.outcomes.countP fun (_, outcome) => test outcome

/- The line that reports a target that failed. -/
def failedLine
    (path message : String) : String :=
  "\n  " ++ path ++ ": " ++ message

/- The text of a failed batch. -/
def message
    (failure : BatchFailure) : String :=
  toString (failure.count fun o => (failureText? o).isSome) ++
    " of " ++ toString failure.outcomes.length ++
    " writes failed (" ++
    toString (failure.count (· == .done)) ++ " done, " ++
    toString (failure.count (· == .cancelled)) ++
    " cancelled)" ++
    String.join
      (failure.failed.map fun (path, message) =>
        failedLine path message)

end BatchFailure

------------------------------------------------------------
-- Errors
------------------------------------------------------------

/-
  Why a document could not be read: its text is at fault, or
  the file that was opened has none.
-/
inductive ReadFailure where
  | text (failure : Json.Failure)
  | unreadable (cause : OsError)
deriving DecidableEq

def ReadFailure.message : ReadFailure → String
  | .text failure => failure.message
  | .unreadable cause => cause.message

/- An error that stops a run. -/
inductive Error where
  | io (path : String) (cause : OsError)
  | json (failure : ReadFailure)
  | repositoryCollision (name : String)
  | capturesKey (path : String) (key : String)
  | invalidRule (path : String) (reason : String)
  | format (message : String)
  | batchWrite (failure : BatchFailure)
deriving DecidableEq

namespace Error

def message : Error → String
  | .io path cause =>
      "I/O error on '" ++ path ++ "': " ++ cause.message
  | .json failure =>
      "JSON parsing error: " ++ failure.message
  | .repositoryCollision name =>
      "repository entry '" ++ name ++
        "' is defined more than once"
  | .capturesKey path key =>
      "captures key '" ++ key ++ "' at " ++ path ++
        " is not an integer"
  | .invalidRule path reason =>
      "invalid rule at " ++ path ++ ": " ++ reason
  | .format message => "formatting failed: " ++ message
  | .batchWrite failure => failure.message

/- The text of the error behind an error, if there is one. -/
def source? : Error → Option String
  | .io _ cause => some cause.message
  | .json failure => some failure.message
  | _ => none

end Error

------------------------------------------------------------
-- Runs
------------------------------------------------------------

/-
  A computation that keeps a journal and may fail.  What was
  written before a failure stays in the journal.
-/
abbrev Run := ExceptT Error (StateM Journal)

namespace Run

/- Collect a diagnostic. -/
def report
    (severity : Severity)
    (path : String)
    (kind : DiagnosticKind) : Run Unit :=
  modify fun journal => journal.push ⟨severity, path, kind⟩

/- Collect a diagnostic about something that is kept. -/
def warn
    (path : String)
    (kind : DiagnosticKind) : Run Unit :=
  report .warning path kind

/- Collect a diagnostic about data that is discarded. -/
def discard
    (path : String)
    (kind : DiagnosticKind) : Run Unit :=
  report .error path kind

/- Write a text to the log. -/
def note
    (level : LogLevel)
    (text : String) : Run Unit :=
  modify fun journal => journal.note level text

/- Run a computation on a journal. -/
def start
    {α : Type}
    (computation : Run α)
    (journal : Journal) : Except Error α × Journal :=
  (ExceptT.run computation).run journal

end Run

end TextMate
