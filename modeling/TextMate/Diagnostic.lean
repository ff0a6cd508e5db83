/-
  This file defines diagnostics, the log, and the journal in
  which a run collects both.

  A diagnostic never stops a run.  Each one that is pushed is
  also written to the log, with its text and severity.

  Key definitions include:
    * `Severity`
    * `DiagnosticKind`
    * `Diagnostic`
    * `Diagnostic.message`
    * `hasErrors`
    * `LogLevel`
    * `LogRecord`
    * `Journal`
    * `Journal.push`
-/

namespace TextMate

------------------------------------------------------------
-- Diagnostics
------------------------------------------------------------

/-
  How bad a diagnostic is.  An error says that some data was
  discarded.
-/
inductive Severity where
  | warning
  | error
deriving DecidableEq

/- What a diagnostic reports. -/
inductive DiagnosticKind where
  | malformedPattern (pattern : String) (message : String)
  | unrecognizedField
  | unexpectedValue (expected : String)
  | danglingInclude (target : String)
  | unpairedDelimiter
deriving DecidableEq

/- A problem at a place of a grammar. -/
structure Diagnostic where
  severity : Severity
  path : String
  kind : DiagnosticKind
deriving DecidableEq

/- What a kind of diagnostic says about its place. -/
def DiagnosticKind.message : DiagnosticKind → String
  | .malformedPattern pattern message =>
      "failed to parse pattern `" ++ pattern ++ "`: " ++
        message ++ "; discarding"
  | .unrecognizedField => "unrecognized key; discarding"
  | .unexpectedValue expected =>
      "expected " ++ expected ++ "; discarding"
  | .danglingInclude target =>
      "include '" ++ target ++ "' has no repository entry"
  | .unpairedDelimiter =>
      "no longer paired with a `begin`/`end`; discarding"

def Diagnostic.message
    (diagnostic : Diagnostic) : String :=
  diagnostic.path ++ ": " ++ diagnostic.kind.message

/- Some diagnostic says that data was discarded. -/
def hasErrors
    (diagnostics : List Diagnostic) : Bool :=
  diagnostics.any fun diagnostic =>
    diagnostic.severity == .error

------------------------------------------------------------
-- Log
------------------------------------------------------------

inductive LogLevel where
  | error
  | warn
  | info
  | debug
deriving DecidableEq

def LogLevel.name : LogLevel → String
  | .error => "ERROR"
  | .warn => "WARN"
  | .info => "INFO"
  | .debug => "DEBUG"

/- A text written to the log. -/
structure LogRecord where
  level : LogLevel
  text : String
deriving DecidableEq

def Severity.level : Severity → LogLevel
  | .warning => .warn
  | .error => .error

def Diagnostic.record
    (diagnostic : Diagnostic) : LogRecord :=
  ⟨diagnostic.severity.level, diagnostic.message⟩

------------------------------------------------------------
-- Journal
------------------------------------------------------------

/- The diagnostics and the log of a run, both in order. -/
structure Journal where
  diagnostics : List Diagnostic
  log : List LogRecord
deriving DecidableEq, Inhabited

namespace Journal

/- A journal in which nothing is written yet. -/
def empty : Journal := ⟨[], []⟩

/- Collect a diagnostic and write it to the log. -/
def push
    (journal : Journal)
    (diagnostic : Diagnostic) : Journal :=
  ⟨journal.diagnostics ++ [diagnostic],
    journal.log ++ [diagnostic.record]⟩

/- Write a text to the log. -/
def note
    (journal : Journal)
    (level : LogLevel)
    (text : String) : Journal :=
  { journal with log := journal.log ++ [⟨level, text⟩] }

/- Append diagnostics that are in the log already. -/
def extend
    (journal : Journal)
    (diagnostics : List Diagnostic) : Journal :=
  { journal with
    diagnostics := journal.diagnostics ++ diagnostics }

end Journal

end TextMate
