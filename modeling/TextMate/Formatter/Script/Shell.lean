import TextMate.Disk.Access
import TextMate.Formatter.Script.Command
import TextMate.Text.Utf8

/-
  This file defines the state of a shell that runs a script:
  its values, its streams and the disk it works on.

  Streams lead through channels to pipes.  A pipe holds the
  bytes that were written to it and not yet read.

  Key definitions include:
    * `Ending`
    * `Channel`
    * `Shell`
    * `Step`
    * `Step.write`
    * `Step.readAll`
    * `Step.readSource`
    * `Step.apart`
-/

namespace TextMate

namespace Script

------------------------------------------------------------
-- Shells
------------------------------------------------------------

/- How a process ends: by itself, or by a signal. -/
inductive Ending where
  | exited (code : Nat)
  | killed (signal : Nat)
deriving DecidableEq

/- Where commands go on: here, or out of loops or more. -/
inductive Flow where
  | running
  | leaving (loops : Nat)
  | skipping (loops : Nat)
  | returning
  | ended (ending : Ending)
deriving DecidableEq

/- Where the bytes of a stream come from or go to. -/
inductive Channel where
  | nowhere
  | pipe (number : Nat)
  | file (place : Disk.Place)
deriving DecidableEq

/-
  A shell: how it was started, what it knows, its streams, and
  how far it came.

  `scope` is the start of its complaints.  Names that are
  `fixed` keep their values, and `locals` holds what names
  stood for before the function that runs changed them.
  `nested` is the status of the last nested script of a
  command.  A trap is what is done at a signal, and at the end
  of the shell for number zero.  Signals are `pending` as long
  as their traps have not run.
-/
structure Shell where
  name : String
  isBash : Bool
  arguments : List String
  line : Nat
  scope : String
  options : List Char
  values : List (String × String)
  exported : List String
  fixed : List String
  locals : Option (List (String × Option String))
  functions : List (String × Command)
  traps : List (Nat × String)
  pending : List Nat
  disk : Disk
  pipes : List (List UInt8)
  channels : List (Nat × Channel)
  status : Nat
  nested : Option Nat
  flow : Flow
  loops : Nat

/- The folders in which programs are looked for. -/
def usualPath : String :=
  "/usr/local/sbin:/usr/local/bin:/usr/sbin:/usr/bin:" ++
    "/sbin:/bin"

/- A shell with nothing done, for an input. -/
def Shell.start
    (disk : Disk)
    (name : String)
    (arguments : List String)
    (input : List UInt8) : Shell :=
  { name := name
    isBash := false
    arguments := arguments
    line := 0
    scope := ""
    options := []
    values := [("PATH", usualPath)]
    exported := ["PATH"]
    fixed := []
    locals := none
    functions := []
    traps := []
    pending := []
    disk := disk
    pipes := [input, [], []]
    channels := [(0, .pipe 0), (1, .pipe 1), (2, .pipe 2)]
    status := 0
    nested := none
    flow := .running
    loops := 0 }

def Shell.hasOption
    (shell : Shell)
    (letter : Char) : Bool :=
  shell.options.contains letter

/- The values that programs are given. -/
def Shell.exportedValues
    (shell : Shell) : List (String × String) :=
  shell.values.filter fun (name, _) =>
    shell.exported.contains name

def Shell.inPipe
    (shell : Shell)
    (number : Nat) : List UInt8 :=
  (shell.pipes[number]?).getD []

/- A computation of a shell. -/
abbrev Step := StateM Shell

namespace Step

------------------------------------------------------------
-- Streams
------------------------------------------------------------

/- Make a new pipe that holds some bytes. -/
def openPipe
    (bytes : List UInt8) : Step Nat := do
  let shell ← get
  set { shell with pipes := shell.pipes ++ [bytes] }
  return shell.pipes.length

/- The channel of a stream, if the stream is open. -/
def channel?
    (stream : Nat) : Step (Option Channel) := do
  return List.lookup stream (← get).channels

/- Let a stream lead to a channel, or close it. -/
def setChannel
    (stream : Nat)
    (channel : Option Channel) : Step Unit :=
  modify fun shell =>
    let others :=
      shell.channels.filter fun (other, _) => other != stream
    let channels :=
      match channel with
      | some channel => (stream, channel) :: others
      | none => others
    { shell with channels := channels }

/- The contents of a file with bytes at its end. -/
def extendFile
    (entry : Option Entry)
    (bytes : List UInt8) : Entry :=
  match entry with
  | some (.file contents isExecutable) =>
      .file (contents ++ Text.decodeLossy bytes) isExecutable
  | _ => .file (Text.decodeLossy bytes) false

/- Write bytes to a channel. -/
def send
    (channel : Channel)
    (bytes : List UInt8) : Step Unit :=
  modify fun shell =>
    match channel with
    | .nowhere => shell
    | .pipe number =>
        { shell with
          pipes := shell.pipes.modify number (· ++ bytes) }
    | .file place =>
        let entry := shell.disk.entryAt? place
        { shell with
          disk := shell.disk.put place (extendFile entry bytes) }

def write
    (stream : Nat)
    (bytes : List UInt8) : Step Unit := do
  match ← channel? stream with
  | some channel => send channel bytes
  | none => return ()

/- Write a text to a stream. -/
def print
    (stream : Nat)
    (text : String) : Step Unit :=
  write stream (Text.bytes text)

/- Read what is left of the input. -/
def readAll : Step (List UInt8) := do
  match ← channel? 0 with
  | some (.pipe number) =>
      let shell ← get
      set { shell with pipes := shell.pipes.set number [] }
      return shell.inPipe number
  | _ => return []

/-
  Read a line of the input.  The mark of its end is not part
  of it.  False when the input ends before the mark.
-/
def readLine : Step (List UInt8 × Bool) := do
  let input ← readAll
  match ← channel? 0 with
  | some channel =>
      send channel ((input.dropWhile (· != 10)).drop 1)
  | none => pure ()
  return (input.takeWhile (· != 10), input.contains 10)

/- Write what a shell has to say about a command. -/
def complain
    (text : String) : Step Unit := do
  let shell ← get
  let place :=
    (if shell.isBash then "line " else "") ++
      toString shell.line
  let scope :=
    if shell.scope.isEmpty then "" else shell.scope ++ ": "
  print 2
    (shell.name ++ ": " ++ place ++ ": " ++ scope ++ text ++
      "\n")

/- Write what a program has to say. -/
def report
    (text : String) : Step Unit := do
  print 2 ((← get).scope ++ ": " ++ text ++ "\n")

/- Run steps whose complaints start with a scope. -/
def within
    {α : Type}
    (scope : String)
    (steps : Step α) : Step α := do
  let before := (← get).scope
  modify fun shell => { shell with scope := scope }
  let result ← steps
  modify fun shell => { shell with scope := before }
  return result

------------------------------------------------------------
-- Files
------------------------------------------------------------

/- Work on the disk. -/
def access
    {α : Type}
    (access : Disk.Access α) : Step (Except OsError α) := do
  let shell ← get
  let (result, disk) := (ExceptT.run access).run shell.disk
  set { shell with disk := disk }
  return result

def openFile
    (path : String)
    (appends : Bool) : Step (Except OsError Channel) := do
  if path = "/dev/null" then return .ok .nowhere
  let disk := (← get).disk
  match disk.writable path with
  | .error error => return .error error
  | .ok place =>
      if !appends || !disk.has place then
        let entry := Entry.file "" (disk.isProgram place)
        modify fun shell =>
          { shell with disk := shell.disk.put place entry }
      return .ok (.file place)

/- Read a file, or the input for a dash. -/
def readSource
    (path : String) : Step (Except OsError (List UInt8)) := do
  if path = "-" || path = "/dev/stdin" then
    return .ok (← readAll)
  else if path = "/dev/null" then return .ok []
  else
    match (← get).disk.find path with
    | .ok (.file contents _) => return .ok (Text.bytes contents)
    | .ok .folder => return .error .isDirectory
    | .error error => return .error error

------------------------------------------------------------
-- Flow
------------------------------------------------------------

/- Commands still go on here. -/
def isRunning : Step Bool := do
  return (← get).flow == .running

def setStatus
    (status : Nat) : Step Unit :=
  modify fun shell => { shell with status := status }

/- Go on elsewhere, unless that was decided already. -/
def setFlow
    (flow : Flow) : Step Unit :=
  modify fun shell =>
    if shell.flow = .running then { shell with flow := flow }
    else shell

/- End the shell with a status. -/
def exit
    (status : Nat) : Step Unit := do
  setStatus status
  setFlow (.ended (.exited status))

/- End the shell with a complaint. -/
def abort
    (text : String) : Step Unit := do
  complain text
  exit 2

------------------------------------------------------------
-- Values
------------------------------------------------------------

/- Give a name a value, or take its value away. -/
def put
    (name : String)
    (value : Option String) : Step Unit :=
  modify fun shell =>
    let others :=
      shell.values.filter fun (other, _) => other != name
    { shell with
      values :=
        match value with
        | some value => (name, value) :: others
        | none => others }

/- Give a name a value unless the name is fixed. -/
def assign
    (name value : String) : Step Unit := do
  if (← get).fixed.contains name then
    abort (name ++ ": is read only")
  else put name (some value)

/- Take the value of a name away unless the name is fixed. -/
def unassign
    (name : String) : Step Unit := do
  if (← get).fixed.contains name then
    abort (name ++ ": is read only")
  else put name none

/- Let programs be given the values of names. -/
def exportAll
    (names : List String) : Step Unit :=
  modify fun shell =>
    { shell with exported := names ++ shell.exported }

/- Give names the values that they had before. -/
def restoreAll : List (String × Option String) → Step Unit
  | [] => return ()
  | (name, value) :: rest => do
      put name value
      restoreAll rest

/-
  Run steps for which names have values of their own that
  programs are given as well.
-/
def withValues
    (names : List String)
    (assigns steps : Step Unit) : Step Unit := do
  let before ← get
  assigns
  exportAll names
  steps
  restoreAll
    (names.map fun name =>
      (name, List.lookup name before.values))
  let isKept (name : String) : Bool :=
    !names.contains name || before.exported.contains name
  modify fun shell =>
    { shell with exported := shell.exported.filter isKept }

/- Run steps that can make names local. -/
def withLocals
    (steps : Step Unit) : Step Unit := do
  let before := (← get).locals
  modify fun shell => { shell with locals := some [] }
  steps
  restoreAll ((← get).locals.getD [])
  modify fun shell => { shell with locals := before }

------------------------------------------------------------
-- Scopes
------------------------------------------------------------

/-
  Run steps in a shell of their own.  What they did to pipes
  and files stays, and so does the end by a signal.  Of the
  traps only those that ignore a signal are still set.
-/
def apart
    (steps : Step Unit) : Step Unit := do
  let before ← get
  let isEmpty (trap : Nat × String) : Bool := trap.2.isEmpty
  modify fun shell =>
    { shell with traps := shell.traps.filter isEmpty }
  steps
  let after ← get
  let status :=
    match after.flow with
    | .ended (.exited code) => code
    | _ => after.status
  let flow :=
    match after.flow with
    | .ended (.killed signal) => .ended (.killed signal)
    | _ => before.flow
  set
    { before with
      disk :=
        { after.disk with workFolder := before.disk.workFolder }
      pipes := after.pipes
      status := status
      flow := flow }

/- Run steps, after which streams lead where they led. -/
def withChannels
    {α : Type}
    (steps : Step α) : Step α := do
  let channels := (← get).channels
  let result ← steps
  modify fun shell => { shell with channels := channels }
  return result

/- Run steps in a shell of their own and take their output. -/
def capture
    (steps : Step Unit) : Step (List UInt8) := do
  let number ← openPipe []
  apart do
    setChannel 1 (some (.pipe number))
    steps
  return (← get).inPipe number

end Step

end Script

end TextMate
