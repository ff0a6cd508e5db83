import TextMate.Formatter.Script.Expansion
import TextMate.Formatter.Script.Signal
import TextMate.Formatter.Script.Tool.Condition
import TextMate.Formatter.Script.Tool.Print

/-
  This file defines the commands that act on the shell itself:
  its values, its arguments, its flow and its end.

  Key definitions include:
    * `Builtin.exit`
    * `Builtin.set`
    * `Builtin.read`
    * `Builtin.trap`
    * `Builtin.kill`
    * `Tool.ofShell?`
    * `specialNames`
-/

namespace TextMate

namespace Script

namespace Builtin

open Text (isDigit)

------------------------------------------------------------
-- Flow
------------------------------------------------------------

/- A number that a command is given, or else the usual one. -/
def numberOr
    (usual : Nat)
    (arguments : List String) : Option Nat :=
  match arguments with
  | [] => some usual
  | text :: _ =>
      if text.toList.all isDigit then text.toNat? else none

/- The complaint about what should be a number. -/
def illegalNumber
    (arguments : List String) : String :=
  "Illegal number: " ++ arguments.head?.getD ""

/- End the shell, with the status so far if no other. -/
def exit : Tool := fun arguments => do
  match numberOr (← get).status arguments with
  | some status =>
      Step.exit (status % 256)
      return status % 256
  | none =>
      Step.abort (illegalNumber arguments)
      return 2

/- Go on after the function that runs. -/
def leave : Tool := fun arguments => do
  match numberOr (← get).status arguments with
  | some status =>
      Step.setFlow .returning
      return status
  | none =>
      Step.abort (illegalNumber arguments)
      return 2

/-
  Go on after some loops, or with their next round.  Outside
  loops that does nothing.
-/
def jump
    (flow : Nat → Flow) : Tool := fun arguments => do
  match numberOr 1 arguments with
  | some (count + 1) =>
      let loops := (← get).loops
      if loops ≠ 0 then
        Step.setFlow (flow (min (count + 1) loops))
      return 0
  | _ =>
      Step.abort (illegalNumber arguments)
      return 2

------------------------------------------------------------
-- Arguments and Options
------------------------------------------------------------

/- Drop the first arguments. -/
def shift : Tool := fun arguments => do
  match numberOr 1 arguments with
  | some count =>
      let shell ← get
      if shell.arguments.length < count then
        Step.abort "can't shift that many"
        return 2
      set { shell with arguments := shell.arguments.drop count }
      return 0
  | none =>
      Step.abort (illegalNumber arguments)
      return 2

/- The options by letter and name. -/
def optionNames : List (Char × String) :=
  [('e', "errexit"), ('f', "noglob"), ('I', "ignoreeof"),
    ('i', "interactive"), ('m', "monitor"), ('n', "noexec"),
    ('s', "stdin"), ('x', "xtrace"), ('v', "verbose"),
    ('V', "vi"), ('E', "emacs"), ('C', "noclobber"),
    ('a', "allexport"), ('b', "notify"), ('u', "nounset")]

def switchOption
    (isOn : Bool)
    (letter : Char) : Step Unit :=
  modify fun shell =>
    let others := shell.options.filter (· != letter)
    { shell with
      options := if isOn then letter :: others else others }

def switchOptions
    (isOn : Bool) : List Char → Step Unit
  | [] => return ()
  | letter :: rest => do
      switchOption isOn letter
      switchOptions isOn rest

/- The option by which a failure in a pipeline counts. -/
def pipeOption : Char := '|'

def optionLetter?
    (isBash : Bool)
    (name : String) : Option Char :=
  if isBash && name = "pipefail" then some pipeOption
  else (optionNames.find? (·.2 == name)).map Prod.fst

/-
  Switch options by letters.  The letter `o` takes a name from
  the arguments, of which it returns the others.  None when
  there is no such option.
-/
def switchAll
    (isOn : Bool) :
    List Char → List String → Step (Option (List String))
  | [], arguments => return some arguments
  | 'o' :: letters, arguments => do
      match arguments with
      | [] => switchAll isOn letters []
      | name :: rest =>
          match optionLetter? (← get).isBash name with
          | some letter =>
              switchOption isOn letter
              switchAll isOn letters rest
          | none =>
              Step.abort ("Illegal option -o " ++ name)
              return none
  | letter :: letters, arguments => do
      if optionNames.any (·.1 == letter) then
        switchOption isOn letter
        switchAll isOn letters arguments
      else
        Step.abort
          ("Illegal option -" ++ String.singleton letter)
        return none

/- Set options, and the arguments if any are given. -/
def setFrom :
    (fuel : Nat) → List String → Step Nat
  | 0, _ => return 2
  | _, [] => return 0
  | fuel + 1, argument :: rest => do
      let give (arguments : List String) : Step Nat := do
        modify fun shell => { shell with arguments := arguments }
        return 0
      let switch (isOn : Bool) (letters : List Char) : Step Nat := do
        match ← switchAll isOn letters rest with
        | some rest => setFrom fuel rest
        | none => return 2
      match argument.toList with
      | ['-', '-'] => give rest
      | '-' :: letter :: letters =>
          switch true (letter :: letters)
      | '+' :: letter :: letters =>
          switch false (letter :: letters)
      | _ => give (argument :: rest)

/- Set options, and the arguments if any are given. -/
def set : Tool := fun arguments =>
  setFrom (arguments.length + 1) arguments

------------------------------------------------------------
-- Values
------------------------------------------------------------

/-
  The name in a text, and the value after an equals sign if
  there is one.  None when the name is no name.
-/
def nameAndValue?
    (text : String) : Option (String × Option String) :=
  let name := text.toList.takeWhile (· != '=')
  if isName name then
    some
      (String.ofList name,
        match text.toList.drop name.length with
        | '=' :: value => some (String.ofList value)
        | _ => none)
  else none

/-
  Do something with each name in arguments, and give it the
  value that is written with it.
-/
def withNames
    (act : String → Step Unit) : List String → Step Nat
  | [] => return 0
  | argument :: rest => do
      match nameAndValue? argument with
      | some (name, value) =>
          match value with
          | some value => Step.assign name value
          | none => pure ()
          act name
          withNames act rest
      | none =>
          Step.abort
            (String.ofList
                (argument.toList.takeWhile (· != '=')) ++
              ": bad variable name")
          return 2

def withoutOptions
    (arguments : List String) : List String :=
  arguments.dropWhile fun argument =>
    argument.toList.head? == some '-'

/- Let programs be given the values of names. -/
def publish : Tool := fun arguments =>
  withNames (fun name => Step.exportAll [name])
    (withoutOptions arguments)

/- Let names keep their values. -/
def fix : Tool := fun arguments =>
  withNames
    (fun name =>
      modify fun shell =>
        { shell with fixed := name :: shell.fixed })
    (withoutOptions arguments)

/- Remember what a name stands for outside the function. -/
def remember
    (name : String) : Step Unit :=
  modify fun shell =>
    let before := (name, List.lookup name shell.values)
    { shell with locals := shell.locals.map (before :: ·) }

/- Make names local to the function that runs. -/
def localize : Tool := fun arguments => do
  if (← get).locals.isNone then
    Step.abort "not in a function"
    return 2
  for argument in arguments do
    match nameAndValue? argument with
    | some (name, _) => remember name
    | none => pure ()
  withNames (fun _ => return ()) arguments

/- Take values away, or functions. -/
def unset : Tool := fun arguments => do
  match arguments with
  | "-f" :: names =>
      modify fun shell =>
        { shell with
          functions :=
            shell.functions.filter fun (name, _) =>
              !names.contains name }
      return 0
  | arguments =>
      withNames Step.unassign (withoutOptions arguments)

/- A line without the backslashes that make signs ordinary. -/
def unprotect : List Char → List Char
  | '\\' :: c :: rest => c :: unprotect rest
  | c :: rest => c :: unprotect rest
  | [] => []

/- Text without some characters at its ends. -/
def trimmed
    (separators text : List Char) : List Char :=
  let cut (text : List Char) : List Char :=
    text.dropWhile separators.contains
  (cut (cut text).reverse).reverse

/- Give the fields of a text to names.  The last has the rest. -/
def assignFields
    (separators : List Char) :
    List String → List Char → Step Unit
  | [], _ => return ()
  | [name], text =>
      Step.assign name (String.ofList (trimmed separators text))
  | name :: names, text => do
      let text := text.dropWhile separators.contains
      let isInside (c : Char) : Bool := !separators.contains c
      Step.assign name (String.ofList (text.takeWhile isInside))
      assignFields separators names (text.dropWhile isInside)

/- Read a line and give its fields to names. -/
def readInto
    (isRaw : Bool)
    (names : List String) : Step Nat := do
  match names.find? (fun name => !isName name.toList) with
  | some name =>
      Step.abort (name ++ ": bad variable name")
      return 2
  | none =>
      let (bytes, isWhole) ← Step.readLine
      let text := (Text.decodeLossy bytes).toList
      let text := if isRaw then text else unprotect text
      assignFields (← get).separators names text
      return if isWhole then 0 else 1

/- Read the names that a line is given to. -/
def read : Tool := fun arguments => do
  let isRaw := arguments.head? = some "-r"
  let names := if isRaw then arguments.drop 1 else arguments
  match names with
  | [] =>
      Step.abort "arg count"
      return 2
  | name :: _ =>
      match name.toList with
      | '-' :: letter :: _ =>
          Step.abort
            ("Illegal option -" ++ String.singleton letter)
          return 2
      | _ => readInto isRaw names

------------------------------------------------------------
-- Surroundings
------------------------------------------------------------

/- Go to another folder. -/
def enter : Tool := fun arguments => do
  let path := arguments.head?.getD "."
  let disk := (← get).disk
  let refuse (error : OsError) : Step Nat := do
    if (← get).isBash then
      Step.complain (path ++ ": " ++ error.description)
      return 1
    else
      Step.complain ("can't cd to " ++ path)
      return 2
  match disk.resolve path with
  | .ok place =>
      match disk.entryAt? place with
      | some .folder =>
          modify fun shell =>
            { shell with
              disk := { shell.disk with workFolder := place } }
          return 0
      | some _ => refuse .notDirectory
      | none => refuse .notFound
  | .error error => refuse error

------------------------------------------------------------
-- Signals
------------------------------------------------------------

/- A text in single quotes, as a script would write it. -/
def quoted
    (text : String) : String :=
  let inner :=
    text.toList.flatMap fun c =>
      if c = '\x27' then "'\\''".toList else [c]
  "'" ++ String.ofList inner ++ "'"

def printTraps : List Nat → Step Unit
  | [] => return ()
  | signal :: rest => do
      match List.lookup signal (← get).traps with
      | some action =>
          Step.print 1
            ("trap -- " ++ quoted action ++ " " ++
              (Signal.name? signal).getD "EXIT" ++ "\n")
      | none => pure ()
      printTraps rest

def setTraps
    (action : Option String) : List String → Step Nat
  | [] => return 0
  | text :: rest => do
      match Signal.number? text with
      | some signal =>
          modify fun shell =>
            let others :=
              shell.traps.filter fun (other, _) => other != signal
            { shell with
              traps :=
                (action.map (signal, ·)).toList ++ others }
          setTraps action rest
      | none =>
          Step.print 2 ("trap: " ++ text ++ ": bad trap\n")
          return 1

/- Set what is done at signals, or print it. -/
def trap : Tool := fun arguments => do
  let arguments :=
    if arguments.head? = some "--" then arguments.drop 1
    else arguments
  match arguments with
  | [] =>
      printTraps (List.range (Signal.limit + 1))
      return 0
  | [signal] => setTraps none [signal]
  | action :: signals =>
      if action.toNat?.isSome then
        setTraps none (action :: signals)
      else if action = "-" then setTraps none signals
      else setTraps (some action) signals

/- The signal that no trap can be set for. -/
def untrapped : Nat := 9

/- Let a signal reach this shell. -/
def deliver
    (signal : Nat) : Step Unit := do
  let shell ← get
  let trap? :=
    if signal = untrapped then none
    else List.lookup signal shell.traps
  match trap? with
  | some "" => return ()
  | some _ =>
      modify fun shell =>
        { shell with pending := shell.pending ++ [signal] }
  | none =>
      if Signal.endsProcess signal then
        Step.setFlow (.ended (.killed signal))

def send
    (signal : Nat) : List String → Step Nat
  | [] => return 0
  | process :: rest => do
      if process.toInt?.isNone then
        Step.complain ("Illegal number: " ++ process)
        return 2
      else if process = processNumber then
        deliver signal
        send signal rest
      else
        Step.complain "No such process\n"
        let _ ← send signal rest
        return 1

/- How signals are sent. -/
def killUsage : String :=
  "Usage: kill [-s sigspec | -signum | -sigspec] " ++
    "[pid | job]... or\nkill -l [exitstatus]"

/- Send a signal to processes, of which there has to be one. -/
def sendTo
    (signal : Nat)
    (processes : List String) : Step Nat := do
  if processes.isEmpty then
    Step.complain killUsage
    return 2
  else send signal processes

def printSignal
    (text : String) : Step Nat := do
  match text.toNat?.bind (fun n => Signal.name? (n % 128)) with
  | some name =>
      Step.print 1 (name ++ "\n")
      return 0
  | none =>
      Step.complain
        ("invalid signal number or exit status: " ++ text)
      return 2

/- Send the signal that is named, or else the usual one. -/
def kill : Tool := fun arguments => do
  match arguments with
  | "-s" :: [] =>
      Step.complain "No arg for -s option"
      return 2
  | "-s" :: name :: processes =>
      match Signal.number? name with
      | some signal => sendTo signal processes
      | none =>
          Step.complain
            ("invalid signal number or name: " ++ name)
          return 2
  | ["-l", status] => printSignal status
  | "--" :: processes => sendTo Signal.usual processes
  | option :: processes =>
      match option.toList with
      | '-' :: letter :: name =>
          match Signal.number?
              (String.ofList (letter :: name)) with
          | some signal => sendTo signal processes
          | none =>
              Step.complain
                ("Illegal option -" ++ String.singleton letter)
              return 2
      | _ => sendTo Signal.usual arguments
  | [] => sendTo Signal.usual []

end Builtin

/- Print the arguments the way the shell does. -/
def Builtin.echo : Tool := fun arguments => do
  if (← get).isBash then Tool.plainEcho arguments
  else Tool.echo arguments

/- A command that does nothing but leave a status. -/
def Tool.status
    (status : Nat) : Tool := fun _ => return status

/- Print the folder of the shell. -/
def Tool.folder : Tool := fun _ => do
  let place := (← get).disk.workFolder
  Step.print 1 ("/" ++ String.intercalate "/" place ++ "\n")
  return 0

/- The command of a name that acts on the shell. -/
def Tool.ofShell? : String → Option Tool
  | ":" | "true" | "wait" | "alias" | "unalias" | "hash"
  | "times" | "ulimit" | "jobs" | "umask" =>
      some (Tool.status 0)
  | "false" => some (Tool.status 1)
  | "exit" => some Builtin.exit
  | "return" => some Builtin.leave
  | "break" => some (Builtin.jump .leaving)
  | "continue" => some (Builtin.jump .skipping)
  | "shift" => some Builtin.shift
  | "set" => some Builtin.set
  | "export" => some Builtin.publish
  | "readonly" => some Builtin.fix
  | "local" => some Builtin.localize
  | "unset" => some Builtin.unset
  | "read" => some Builtin.read
  | "cd" | "chdir" => some Builtin.enter
  | "pwd" => some Tool.folder
  | "trap" => some Builtin.trap
  | "kill" => some Builtin.kill
  | "echo" => some Builtin.echo
  | "printf" => some Tool.printf
  | "test" => some (Tool.test false)
  | "[" => some (Tool.test true)
  | _ => none

/-
  The names of commands whose failures end the shell, and for
  which assignments in front of them stay.
-/
def specialNames : List String :=
  [".", ":", "break", "continue", "eval", "exec", "exit",
    "export", "readonly", "return", "set", "shift", "times",
    "trap", "unset"]

end Script

end TextMate
