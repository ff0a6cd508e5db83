import TextMate.Formatter.Script.Launch

/-
  This file defines what the name of a command means to a
  shell.

  Key definitions include:
    * `Meaning`
    * `Shell.meaning`
    * `describe`
    * `locate`
-/

namespace TextMate

namespace Script

/- What the name of a command means. -/
inductive Meaning where
  | keyword
  | function (body : Command)
  | builtin
  | program (path : String)
  | unknown

/- The commands by which a shell runs other commands. -/
def runningNames : List String :=
  [".", "command", "eval", "exec", "source", "type"]

/- The shell has a command of this name itself. -/
def isBuiltin
    (isBash : Bool)
    (name : String) : Bool :=
  (Tool.ofShell? name).isSome ||
    (runningNames.contains name && (isBash || name != "source"))

/-
  What a name means to a shell.  A function does not hide a
  special command.
-/
def Shell.meaning
    (shell : Shell)
    (name : String) : Meaning :=
  if keywords.contains name then .keyword
  else if specialNames.contains name then .builtin
  else
    match List.lookup name shell.functions with
    | some body => .function body
    | none =>
        if isBuiltin shell.isBash name then .builtin
        else
          match programPath? shell.disk shell.programFolders
              name with
          | some path =>
              if leadsToProgram shell.disk path then .program path
              else .unknown
          | none => .unknown

def Meaning.text
    (name : String) : Meaning → String
  | .keyword => " is a shell keyword"
  | .function _ => " is a shell function"
  | .builtin =>
      if specialNames.contains name then
        " is a special shell builtin"
      else " is a shell builtin"
  | .program path => " is " ++ path
  | .unknown => ": not found"

/- Describe what names mean. -/
def describe : List String → Step Nat
  | [] => return 0
  | name :: rest => do
      let meaning := (← get).meaning name
      Step.print 1 (name ++ meaning.text name ++ "\n")
      let status ← describe rest
      return if meaning matches .unknown then 127 else status

/- Print where the command of a name is found. -/
def locate
    (name : String) : Step Nat := do
  match (← get).meaning name with
  | .program path =>
      Step.print 1 (path ++ "\n")
      return 0
  | .unknown => return 127
  | _ =>
      Step.print 1 (name ++ "\n")
      return 0

end Script

end TextMate
