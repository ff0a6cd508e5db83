import TextMate.Disk.Basic
import TextMate.Formatter.Script.Builtin
import TextMate.Formatter.Script.Tool.Edit
import TextMate.Formatter.Script.Tool.Files
import TextMate.Formatter.Script.Tool.Order
import TextMate.Formatter.Script.Tool.Search

/-
  This file defines what is run for the name of a program: a
  tool of the system, a shell, a program that runs another
  one, or the interpreter that the first line of a file names.

  Key definitions include:
    * `Tool.ofSystem?`
    * `isInstalled`
    * `Wrapper.read`
    * `interpreter?`
    * `Launch`
    * `launch`
-/

namespace TextMate

namespace Script

open Text (isDigit)

------------------------------------------------------------
-- Tools
------------------------------------------------------------

/- The argument is an option that is a word. -/
def isLongOption
    (argument : String) : Bool :=
  "--".toList.isPrefixOf argument.toList && argument ≠ "--"

/- The status of a tool that does not know an option. -/
def refusedStatus : String → Nat
  | "sort" | "ls" | "grep" => 2
  | "env" | "timeout" | "nice" | "nohup" => 125
  | _ => 1

/- What a tool adds about the use of its options. -/
def usageText : String → String
  | "grep" => "Usage: grep [OPTION]... PATTERNS [FILE]...\n"
  | _ => ""

/- Report an option that a tool does not know. -/
def refuseOption
    (name option : String) : Step Nat := do
  let scope := (← get).scope
  let title :=
    if name = "grep" || name = "rev" then name else scope
  Step.report ("unrecognized option '" ++ option ++ "'")
  Step.print 2
    (usageText name ++ "Try '" ++ title ++
      " --help' for more information.\n")
  return refusedStatus name

/-
  A tool that knows no option that is a word.  The last ones
  of `tr` stand before its sets.
-/
def Tool.withoutWords
    (name : String)
    (tool : Tool) : Tool := fun arguments => do
  let isBefore (argument : String) : Bool :=
    argument != "--" &&
      (name != "tr" || argument.toList.head? == some '-')
  let options := arguments.takeWhile isBefore
  match options.find? isLongOption with
  | some option => refuseOption name option
  | none => tool arguments

/-
  The tool of a name that the system has.  Some take any
  argument as it is.
-/
def Tool.ofSystem?
    (name : String) : Option Tool :=
  match name with
  | "echo" => some Tool.plainEcho
  | "printf" => some Tool.printf
  | "test" => some (Tool.test false)
  | "[" => some (Tool.test true)
  | "true" => some (Tool.status 0)
  | "false" => some (Tool.status 1)
  | name =>
      let tool? :=
        match name with
        | "grep" => some Tool.grep
        | "sed" => some Tool.sed
        | "pwd" => some Tool.folder
        | "sleep" => some (Tool.status 0)
        | name => Tool.ofFilter? name <|> Tool.ofFiles? name
      tool?.map (Tool.withoutWords name)

def shellNames : List String := ["sh", "dash", "bash"]

------------------------------------------------------------
-- Wrappers
------------------------------------------------------------

/- The programs that run another one. -/
def wrapperNames : List String :=
  ["env", "timeout", "nice", "nohup"]

/-
  A program that another one runs: values that it is given,
  its name and its arguments.
-/
structure Wrapped where
  values : List (String × String)
  words : List String

/- Read the values in front of the name of a program. -/
def Wrapped.ofValues : List String → Wrapped
  | [] => ⟨[], []⟩
  | word :: rest =>
      match Builtin.nameAndValue? word with
      | some (name, some value) =>
          let wrapped := Wrapped.ofValues rest
          { wrapped with
            values := (name, value) :: wrapped.values }
      | _ => ⟨[], word :: rest⟩

def blankWords
    (text : String) : List String :=
  ((text.splitOn " ").flatMap (·.splitOn "\t")).filter
    fun word => !word.isEmpty

/- Read what a program is to run from its arguments. -/
def Wrapped.ofArguments
    (name : String)
    (arguments : List String) : Wrapped :=
  let isOption (text : String) : Bool :=
    text.toList.head? == some '-'
  match name, arguments with
  | "env", "-S" :: text :: rest =>
      .ofValues (blankWords text ++ rest)
  | "env", first :: rest =>
      match first.toList with
      | '-' :: 'S' :: text =>
          .ofValues (blankWords (String.ofList text) ++ rest)
      | _ => .ofValues ((first :: rest).dropWhile isOption)
  | "nice", "-n" :: _ :: rest => ⟨[], rest⟩
  | "timeout", arguments =>
      ⟨[], (arguments.dropWhile isOption).drop 1⟩
  | _, arguments => ⟨[], arguments.dropWhile isOption⟩

/- What a program says about another one that it cannot run. -/
def Wrapped.refusal
    (name program : String)
    (error : OsError) : String :=
  let start :=
    if name = "env" || name = "nice" then ""
    else "failed to run command "
  start ++ "'" ++ program ++ "': " ++ error.description

------------------------------------------------------------
-- Installed Programs
------------------------------------------------------------

/- The system has a program of this name. -/
def isInstalled
    (name : String) : Bool :=
  (Tool.ofSystem? name).isSome || shellNames.contains name ||
    wrapperNames.contains name

/- The names on an absolute path, without those it leaves. -/
def absoluteNames
    (path : String) : List String :=
  (Path.steps path).foldl
    (fun names step =>
      match step with
      | .stay => names
      | .up => names.dropLast
      | .down name => names ++ [name])
    []

/- The name of a system's program that a path leads to. -/
def installedName?
    (path : String) : Option String :=
  if Path.isAbsolute path && !Path.endsInSlash path then
    match absoluteNames path with
    | ["bin", name] | ["usr", "bin", name] =>
        if isInstalled name then some name else none
    | _ => none
  else none

/- Folders and files of the system that are no programs. -/
def systemEntries : List String :=
  ["/bin", "/boot", "/dev", "/dev/null", "/dev/stdin",
    "/dev/stdout", "/dev/zero", "/etc", "/etc/hosts",
    "/etc/passwd", "/home", "/lib", "/opt", "/proc", "/root",
    "/run", "/sbin", "/sys", "/tmp", "/usr", "/usr/bin",
    "/usr/lib", "/usr/local", "/usr/local/bin",
    "/usr/local/sbin", "/usr/sbin", "/usr/share", "/var"]

/- A path leads to an entry of the system, but no program. -/
def leadsToSystem
    (path : String) : Bool :=
  Path.isAbsolute path &&
    systemEntries.any fun entry =>
      absoluteNames entry == absoluteNames path

def Shell.programFolders
    (shell : Shell) : List String :=
  match List.lookup "PATH" shell.values with
  | some path => path.splitOn ":"
  | none => []

/- A path leads to something. -/
def leadsSomewhere
    (disk : Disk)
    (path : String) : Bool :=
  (installedName? path).isSome || leadsToSystem path ||
    (disk.find path matches .ok _)

def leadsToProgram
    (disk : Disk)
    (path : String) : Bool :=
  (installedName? path).isSome ||
    (disk.find path matches .ok (.file _ true))

/-
  The path of a program: where it is in the folders, unless
  its name has a slash.  What cannot be run is only taken when
  there is nothing else.
-/
def programPath?
    (disk : Disk)
    (folders : List String)
    (program : String) : Option String :=
  if program.toList.contains '/' then some program
  else if program.isEmpty then none
  else
    let paths := folders.map fun folder =>
      if folder.isEmpty then "./" ++ program
      else folder ++ "/" ++ program
    paths.find? (leadsToProgram disk) <|>
      paths.find? (leadsSomewhere disk)

------------------------------------------------------------
-- Interpreters
------------------------------------------------------------

structure Interpreter where
  path : String
  argument : Option String

def isLineBlank
    (c : Char) : Bool :=
  c == ' ' || c == '\t'

/-
  The interpreter that the first line of a file names.  None
  when the line does not start like that, or names nothing.
-/
def interpreter?
    (contents : String) : Option Interpreter :=
  match contents.toList with
  | '#' :: '!' :: rest =>
      let line := Builtin.trimmed [' ', '\t'] (takeLine rest).1
      let path := line.takeWhile fun c => !isLineBlank c
      let argument :=
        (line.drop path.length).dropWhile isLineBlank
      if path.isEmpty then none
      else
        some
          ⟨String.ofList path,
            if argument.isEmpty then none
            else some (String.ofList argument)⟩
  | _ => none

/-
  A program of the system that is run, the title that it was
  called by, and its arguments.
-/
structure Launch where
  name : String
  title : String
  arguments : List String
deriving DecidableEq

/- A shell that runs a file. -/
def Launch.ofScript
    (path : String)
    (arguments : List String) : Launch :=
  ⟨"sh", "/bin/sh", path :: arguments⟩

/-
  What is run for the path of a program.  `fuel` bounds how
  many interpreters are files with interpreters themselves.
-/
def launchPath
    (disk : Disk) :
    (fuel : Nat) →
    (title path : String) →
    List String →
    Except OsError Launch
  | 0, _, _, _ => .error .tooManyLinks
  | fuel + 1, title, path, arguments =>
      match installedName? path with
      | some name => .ok ⟨name, title, arguments⟩
      | none =>
          if leadsToSystem path then .error .permissionDenied
          else
            match disk.find path with
            | .error error => .error error
            | .ok .folder => .error .permissionDenied
            | .ok (.file contents isExecutable) =>
                if !isExecutable then .error .permissionDenied
                else
                  match interpreter? contents with
                  | none => .error .notProgram
                  | some interpreter =>
                      launchPath disk fuel interpreter.path
                        interpreter.path
                        (interpreter.argument.toList ++
                          path :: arguments)

/- The greatest number of interpreters for a program. -/
def maxInterpreters : Nat := 6

/-
  What is run for the name of a program.  A name without a
  slash has to be in one of the folders.
-/
def launch
    (disk : Disk)
    (folders : List String)
    (program : String)
    (arguments : List String) : Except OsError Launch :=
  if (program :: arguments).any
      fun text => text.toList.contains '\x00' then
    .error .nulInArgument
  else
    match programPath? disk folders program with
    | some path =>
        launchPath disk maxInterpreters program path arguments
    | none => .error .notFound

/-
  What a shell runs for the name of a program.  A file that is
  no program is taken for a script.
-/
def launchInShell
    (shell : Shell)
    (program : String)
    (arguments : List String) : Except OsError Launch :=
  match launch shell.disk shell.programFolders program
      arguments with
  | .error .notProgram =>
      match programPath? shell.disk shell.programFolders
          program with
      | some path => .ok (.ofScript path arguments)
      | none => .error .notProgram
  | launch => launch

end Script

end TextMate
