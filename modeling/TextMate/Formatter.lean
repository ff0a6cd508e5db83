import TextMate.Formatter.Script.Execution
import TextMate.Text.Blank
import TextMate.Workspace

/-
  This file defines formatters of generated source.  Any
  function on sources and disks is one.  Two are given here: one
  that keeps the source, and one that hands it to a program.

  Key definitions include:
    * `Formatter`
    * `Formatter.format`
    * `Formatter.verbatim`
    * `Style.arguments`
    * `Script.Ending.text`
    * `collectOutput`
    * `Formatter.program`
-/

namespace TextMate

------------------------------------------------------------
-- Formatters
------------------------------------------------------------

/-
  A formatter gives a source for a source.  It may fail with any
  error, and it may read the disk and change it.
-/
structure Formatter where
  run : String → Disk → Except Error String × Disk

namespace Formatter

/- Format a source on the disk of a workspace. -/
def format
    (formatter : Formatter)
    (source : String) : Action String := do
  let (result, disk) := formatter.run source (← get).disk
  modify fun workspace => { workspace with disk := disk }
  Action.ofExcept result

/- The formatter that keeps the source. -/
def verbatim : Formatter where
  run source disk := (.ok source, disk)

end Formatter

------------------------------------------------------------
-- Programs
------------------------------------------------------------

/- The arguments that a program is given for its settings. -/
def Style.arguments
    (style : Style) : List String :=
  ["--emit", "stdout", "--quiet", "--edition", style.edition,
    "--config", style.configuration]

/- The name of a signal, if it has one. -/
def signalText
    (signal : Nat) : String :=
  match Script.Signal.name? signal with
  | some name => " (SIG" ++ name ++ ")"
  | none => ""

def Script.Ending.text : Script.Ending → String
  | .exited code => "exit status: " ++ toString code
  | .killed signal =>
      "signal: " ++ toString signal ++ signalText signal

/- The text between quotes that names a program. -/
def programText
    (program : String) : String :=
  "'" ++ program ++ "'"

/- The formatted source that a program wrote. -/
def collectOutput
    (program : String)
    (execution : Script.Execution) : Except Error String :=
  if execution.ending = .exited 0 then
    match Text.decode? execution.output with
    | some text => .ok text
    | none =>
        .error
          (.format
            (programText program ++
              " output was not valid UTF-8"))
  else
    .error
      (.format
        (programText program ++ " exited with " ++
          execution.ending.text ++ ": " ++
          Text.trim (Text.decodeLossy execution.errors)))

/-
  The formatter that hands the source to a program, which may
  use the disk.
-/
def Formatter.program
    (path : String)
    (style : Style) : Formatter where
  run source disk :=
    let folders := Script.usualPath.splitOn ":"
    match Script.launch disk folders path style.arguments with
    | .error error =>
        (.error
          (.format
            ("cannot run " ++ programText path ++ ": " ++
              error.message)),
          disk)
    | .ok program =>
        let execution :=
          Script.execute disk program (Text.bytes source)
        (collectOutput path execution, execution.disk)

end TextMate
