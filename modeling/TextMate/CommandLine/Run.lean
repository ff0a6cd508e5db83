import TextMate.Build
import TextMate.CommandLine.Arguments
import TextMate.Decompile

/-
  This file defines what the commands do and print.

  Key definitions include:
    * `Reply`
    * `Command.run`
    * `runArguments`
-/

namespace TextMate

namespace CommandLine

open Import (Acceptance)

------------------------------------------------------------
-- Replies
------------------------------------------------------------

/- What a command prints, and its exit status. -/
structure Reply where
  exitStatus : Nat
  output : String
  errors : String
deriving DecidableEq

/- The name and the version of the program. -/
def versionText : String := "tmgrammar 0.1.0"

/- A line of the output. -/
def line
    (text : String) : String :=
  text ++ "\n"

def successLine
    (text : String) : String :=
  line ("✓ " ++ text)

def severityName : Severity → String
  | .warning => "Warning"
  | .error => "Error"

def diagnosticLine
    (diagnostic : Diagnostic) : String :=
  line
    (severityName diagnostic.severity ++ ": " ++
      diagnostic.message)

def diagnosticLines
    (diagnostics : List Diagnostic) : String :=
  String.join (diagnostics.map diagnosticLine)

/- The reply to a success. -/
def success
    (output : String)
    (diagnostics : List Diagnostic) : Reply :=
  ⟨0, output, diagnosticLines diagnostics⟩

/- The reply to a failure. -/
def failure
    (error : Error)
    (diagnostics : List Diagnostic) : Reply :=
  ⟨1, "",
    diagnosticLines diagnostics ++
      line ("✗ " ++ error.message)⟩

------------------------------------------------------------
-- Commands
------------------------------------------------------------

/- The program that formats where none is given. -/
def defaultProgram : String := "rustfmt"

def formatter
    (formatting : Formatting)
    (disk : Disk) : Except Error Formatter :=
  if formatting.isOff then .ok .verbatim
  else
    let program := formatting.program.getD defaultProgram
    match formatting.style with
    | none => .ok (.program program .default)
    | some path =>
        (loadStyle disk path).map fun style =>
          .program program style

def decompileText
    (report : DecompileReport) : String :=
  successLine
    ("Decompiled '" ++ report.grammarName ++ "' into " ++
      toString report.written.length ++ " files")

def runDecompile
    (check : Acceptance)
    (path : String)
    (outFolder : String)
    (formatting : Formatting)
    (checkIncludes : Bool) : Action DecompileReport := do
  let formatter ← Action.query (formatter formatting)
  decompile check ⟨outFolder, formatter, checkIncludes⟩ path

def normalizeText
    (report : BuildReport) : String :=
  successLine ("Wrote '" ++ report.grammar ++ "'") ++
    String.join
      (report.copied.map fun path =>
        successLine ("Copied '" ++ path ++ "'"))

def importFile
    (check : Acceptance)
    (path : String) : Action (Grammar × List Diagnostic) := do
  let document ← Action.query fun disk =>
    loadDocument disk path
  let (result, diagnostics) ←
    Action.collect (importGrammar check document)
  let grammar ← Action.ofExcept result
  return (grammar, diagnostics)

/- Run an action to the end. -/
def finish
    {α : Type}
    (action : Action α) :
    StateM Workspace (Except Error α) :=
  ExceptT.run action

def Command.run
    (check : Acceptance) :
    Command → StateM Workspace Reply
  | .decompile path outFolder formatting checkIncludes => do
      match ← finish (runDecompile check path outFolder
          formatting checkIncludes) with
      | .error error => return failure error []
      | .ok report =>
          return success (decompileText report)
            report.diagnostics
  | .normalize path outFolder name configFolder => do
      match ← finish (importFile check path) with
      | .error error => return failure error []
      | .ok (grammar, diagnostics) =>
          match ← finish (build
              ⟨outFolder, name, configFolder⟩ grammar) with
          | .error error => return failure error diagnostics
          | .ok report =>
              return success (normalizeText report) diagnostics
  | .version => return success (line versionText) []

/- The reply to arguments that make no command. -/
def refusal : Reply := ⟨2, "", line "unusable arguments"⟩

def runArguments
    (check : Acceptance)
    (arguments : List String) : StateM Workspace Reply :=
  match Command.ofArguments? arguments with
  | none => return refusal
  | some command => command.run check

end CommandLine

end TextMate
