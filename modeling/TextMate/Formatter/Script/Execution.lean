import TextMate.Formatter.Script.Meaning
import TextMate.Formatter.Script.Redirect
import TextMate.Formatter.Script.Start

/-
  This file defines how commands run, and what a program does
  with an input: what it writes to its two streams, what it
  leaves on the disk, and how it ends.

  Key definitions include:
    * `run`
    * `runScript`
    * `Execution`
    * `execute`
-/

namespace TextMate

namespace Script

------------------------------------------------------------
-- Parts of Commands
------------------------------------------------------------

/- What a shell says about a fault in the form of a script. -/
def Fault.text
    (fault : Fault) : String :=
  "Syntax error: " ++
    match fault with
    | .openQuote => "Unterminated quoted string"
    | .openBackQuote => "EOF in backquote substitution"
    | .openScript =>
        "end of file unexpected (expecting \")\")"
    | .openNumber => "Missing '))'"
    | .openBrace _ => "Missing '\x7d'"
    | .badLoopName => "Bad for loop variable"
    | .badFunctionName => "Bad function name"
    | .unexpected found none => found ++ " unexpected"
    | .unexpected found (some expected) =>
        found ++ " unexpected (expecting " ++ expected ++ ")"

/- Give the values of assignments, and return their texts. -/
def assignAll
    (nested : Nested) : List Assignment → Step (List String)
  | [] => return []
  | assignment :: rest => do
      let value ← expandText nested assignment.value
      if ← Step.isRunning then Step.assign assignment.name value
      return (assignment.name ++ "=" ++ value) ::
        (← assignAll nested rest)

/- Show the texts of a command that runs, if that is asked. -/
def trace
    (channel : Option Channel)
    (texts : List String) : Step Unit := do
  if (← get).hasOption 'x' then
    match channel with
    | some channel =>
        Step.send channel
          (Text.bytes
            ("+ " ++ String.intercalate " " texts ++ "\n"))
    | none => return ()

/- The shell ends at a failure that was not asked about. -/
def checkFailure
    (isTested : Bool) : Step Unit := do
  let shell ← get
  if shell.hasOption 'e' && !isTested && shell.status ≠ 0 then
    Step.exit shell.status

def anyAccepts
    (nested : Nested)
    (text : String) : List Word → Step Bool
  | [] => return false
  | word :: rest => do
      let glob ← expandGlob nested word
      if glob.accepts text.toList then return true
      else anyAccepts nested text rest

def findCase
    (nested : Nested)
    (text : String) :
    List (List Word × Command) → Step (Option Command)
  | [] => return none
  | (words, command) :: rest => do
      if ← anyAccepts nested text words then
        return some command
      else findCase nested text rest

/-
  Settle the flow at the end of a round of a loop.  True when
  the loop goes on.
-/
def endRound : Step Bool := do
  let goOn (flow : Flow) : Step Unit :=
    modify fun shell => { shell with flow := flow }
  match (← get).flow with
  | .running => return true
  | .leaving loops =>
      goOn (if loops ≤ 1 then .running else .leaving (loops - 1))
      return false
  | .skipping loops =>
      if loops ≤ 1 then
        goOn .running
        return true
      else
        goOn (.skipping (loops - 1))
        return false
  | _ => return false

/- Run steps as the round of one more loop. -/
def inLoop
    (steps : Step Unit) : Step Unit := do
  let loops := (← get).loops
  modify fun shell => { shell with loops := loops + 1 }
  steps
  modify fun shell => { shell with loops := loops }

def Command.isNothing : Command → Bool
  | .sequence [] => true
  | _ => false

/-
  Run a tool of the shell.  What it complains about ends the
  shell only if it is strict.
-/
def runTool
    (name : String)
    (isStrict : Bool)
    (tool : Tool)
    (arguments : List String) : Step Unit := do
  let status ← Step.within name (tool arguments)
  Step.setStatus status
  match (← get).flow with
  | .ended (.exited _) =>
      if !isStrict then
        modify fun shell => { shell with flow := .running }
  | _ => return ()

/- A tool that is strict even when it is run as a command. -/
def isFinal
    (name : String) : Bool :=
  name == "exit"

/- The text about a program that cannot be run. -/
def launchFault
    (shell : Shell)
    (name : String)
    (error : OsError) : String :=
  let isMissing := error = .notFound || error = .notDirectory
  let reason :=
    if !isMissing then error.description
    else if !shell.isBash then "not found"
    else if name.toList.contains '/' then error.description
    else "command not found"
  name ++ ": " ++ reason

------------------------------------------------------------
-- Running
------------------------------------------------------------

/-
  Run commands.  `fuel` bounds the rounds of loops and how deep
  commands are nested.  A failure is tested when something asks
  for it.
-/
mutual

def runNested
    (fuel : Nat)
    (script : List Char) : Step (List UInt8) :=
  match fuel with
  | 0 => return []
  | fuel + 1 => do
      let status := (← get).status
      let output ← Step.capture (runScript fuel script)
      modify fun shell =>
        { shell with
          nested := some shell.status
          status := status }
      return output
termination_by structural fuel

def runScript
    (fuel : Nat)
    (script : List Char) : Step Unit :=
  match fuel with
  | 0 => Step.exit 2
  | fuel + 1 => do
      let program := readProgram script
      runAll fuel false program.lines
      match program.fault with
      | some (line, fault) =>
          if ← Step.isRunning then
            modify fun shell => { shell with line := line }
            Step.abort fault.text
      | none => return ()
termination_by structural fuel

/- Run what is done at signals that reached the shell. -/
def runPending
    (fuel : Nat) : Step Unit :=
  match fuel with
  | 0 => Step.exit 2
  | fuel + 1 => do
      let shell ← get
      match shell.pending with
      | [] => return ()
      | signal :: rest =>
          set { shell with pending := rest }
          let action := List.lookup signal shell.traps
          runScript fuel (action.getD "").toList
          if ← Step.isRunning then
            Step.setStatus shell.status
            runPending fuel
termination_by structural fuel

/- Run what is done at the end of the shell. -/
def runFinally
    (fuel : Nat) : Step Unit :=
  match fuel with
  | 0 => Step.exit 2
  | fuel + 1 => do
      let shell ← get
      match List.lookup 0 shell.traps, shell.flow with
      | _, .ended (.killed _) => return ()
      | none, _ => return ()
      | some action, flow =>
          let status :=
            match flow with
            | .ended (.exited code) => code
            | _ => shell.status
          set { shell with
            traps := shell.traps.filter (·.1 != 0)
            flow := .running
            status := status }
          runScript fuel action.toList
          if ← Step.isRunning then Step.exit status
termination_by structural fuel

/- Run commands in order as long as they go on here. -/
def runAll
    (fuel : Nat)
    (isTested : Bool)
    (commands : List Command) : Step Unit :=
  match fuel, commands with
  | 0, _ => Step.exit 2
  | _, [] => return ()
  | fuel + 1, command :: rest => do
      run fuel isTested command
      if ← Step.isRunning then runAll fuel isTested rest
termination_by structural fuel

/- Run a command in a shell of its own. -/
def runApart
    (fuel : Nat)
    (isTested : Bool)
    (command : Command) : Step Unit :=
  match fuel with
  | 0 => Step.exit 2
  | fuel + 1 =>
      Step.apart do
        run fuel isTested command
        runFinally fuel
termination_by structural fuel

def run
    (fuel : Nat)
    (isTested : Bool)
    (command : Command) : Step Unit :=
  match fuel with
  | 0 => Step.exit 2
  | fuel + 1 => do
      let nested := runNested fuel
      match command with
      | .simple line assignments words redirections =>
          modify fun shell =>
            { shell with line := line, nested := none }
          let texts ← expandWords nested words
          if ← Step.isRunning then
            runSimple fuel isTested assignments texts
              redirections
            if ← Step.isRunning then runPending fuel
            checkFailure isTested
      | .pipeline commands =>
          runPipeline fuel isTested commands
          checkFailure isTested
      | .negated command =>
          run fuel true command
          if ← Step.isRunning then
            let status := (← get).status
            Step.setStatus (if status = 0 then 1 else 0)
      | .both first second =>
          run fuel true first
          if (← Step.isRunning) && (← get).status = 0 then
            run fuel isTested second
      | .either first second =>
          run fuel true first
          if (← Step.isRunning) && (← get).status ≠ 0 then
            run fuel isTested second
      | .sequence commands => runAll fuel isTested commands
      | .choice condition yes no =>
          run fuel true condition
          if ← Step.isRunning then
            if (← get).status = 0 then run fuel isTested yes
            else if no.isNothing then Step.setStatus 0
            else run fuel isTested no
      | .loop isUntil condition body =>
          inLoop
            (runLoop fuel isTested isUntil 0 condition body)
      | .each name words body =>
          let texts ←
            match words with
            | some words => expandWords nested words
            | none => pure (← get).arguments
          if texts.isEmpty then Step.setStatus 0
          if ← Step.isRunning then
            inLoop (runEach fuel isTested name body texts)
      | .select word cases =>
          let text ← expandText nested word
          let found ← findCase nested text cases
          let command := found.getD .nothing
          if ← Step.isRunning then
            if command.isNothing then Step.setStatus 0
            else run fuel isTested command
      | .subshell body =>
          runApart fuel isTested body
          checkFailure isTested
      | .background body =>
          runApart fuel true body
          Step.setStatus 0
      | .redirected line body redirections =>
          modify fun shell => { shell with line := line }
          redirected nested redirections false
            (run fuel isTested body)
      | .define name body =>
          modify fun shell =>
            { shell with
              functions := (name, body) :: shell.functions
              status := 0 }
termination_by structural fuel

/- Run a simple command whose words were replaced. -/
def runSimple
    (fuel : Nat)
    (isTested : Bool)
    (assignments : List Assignment)
    (texts : List String)
    (redirections : List Redirection) : Step Unit :=
  match fuel with
  | 0 => Step.exit 2
  | fuel + 1 => do
      let nested := runNested fuel
      let errors ← Step.channel? 2
      match texts with
      | [] =>
          redirected nested redirections false do
            let assigned ← assignAll nested assignments
            if !assigned.isEmpty then trace errors assigned
            if ← Step.isRunning then
              Step.setStatus ((← get).nested.getD 0)
      | ["exec"] =>
          trace errors texts
          if ← redirectAll nested redirections then
            Step.setStatus 0
          else Step.exit 2
      | name :: arguments =>
          let isSpecial := specialNames.contains name
          redirected nested redirections isSpecial do
            let assigns : Step Unit := do
              let assigned ← assignAll nested assignments
              trace errors (assigned ++ texts)
            let runs : Step Unit := do
              if ← Step.isRunning then
                runNamed fuel isTested name arguments
            if isSpecial then
              assigns
              runs
            else
              Step.withValues (assignments.map (·.name)) assigns
                runs
termination_by structural fuel

def runNamed
    (fuel : Nat)
    (isTested : Bool)
    (name : String)
    (arguments : List String) : Step Unit :=
  match fuel with
  | 0 => Step.exit 2
  | fuel + 1 => do
      let shell ← get
      match shell.meaning name with
      | .function body =>
          set { shell with arguments := arguments, loops := 0 }
          Step.withLocals (run fuel isTested body)
          modify fun after =>
            { after with
              arguments := shell.arguments
              loops := shell.loops
              flow :=
                if after.flow = .returning then .running
                else after.flow }
      | .builtin =>
          runBuiltin fuel isTested
            (specialNames.contains name) name arguments
      | _ => runExternal fuel name arguments
termination_by structural fuel

/- Run a command of the shell. -/
def runBuiltin
    (fuel : Nat)
    (isTested isStrict : Bool)
    (name : String)
    (arguments : List String) : Step Unit :=
  match fuel with
  | 0 => Step.exit 2
  | fuel + 1 => do
      match Tool.ofShell? name, name, arguments with
      | some tool, name, arguments =>
          runTool name isStrict tool arguments
      | none, "eval", texts =>
          Step.within "eval"
            (runScript fuel
              (String.intercalate " " texts).toList)
      | none, "type", names =>
          Step.setStatus (← describe names)
      | none, "exec", name :: arguments =>
          Step.within "exec" (runExternal fuel name arguments)
          modify fun shell => { shell with traps := [] }
          Step.exit (← get).status
      | none, "command", "-v" :: name :: _ =>
          Step.setStatus (← locate name)
      | none, "command", "-V" :: names =>
          Step.setStatus (← describe names)
      | none, "command", "-p" :: name :: arguments
      | none, "command", name :: arguments =>
          if isBuiltin (← get).isBash name then
            runBuiltin fuel isTested (isFinal name) name arguments
          else runExternal fuel name arguments
      | none, _, path :: _ => runFile fuel name path
      | none, _, [] => Step.setStatus 0
termination_by structural fuel

def runFile
    (fuel : Nat)
    (name path : String) : Step Unit :=
  match fuel with
  | 0 => Step.exit 2
  | fuel + 1 => do
      let shell ← get
      let place? :=
        programPath? shell.disk shell.programFolders path
      match place? with
      | none =>
          Step.within name (Step.abort (path ++ ": not found"))
      | some place =>
          match shell.disk.find place with
          | .ok (.file contents _) =>
              Step.within place
                (runScript fuel contents.toList)
              modify fun shell =>
                { shell with
                  flow :=
                    if shell.flow = .returning then .running
                    else shell.flow }
          | .ok .folder => Step.setStatus 0
          | .error error =>
              Step.within name
                (Step.abort
                  (openFault "open" "No such file" place error))
termination_by structural fuel

/- Run a program apart from this shell. -/
def runExternal
    (fuel : Nat)
    (name : String)
    (arguments : List String) : Step Unit :=
  match fuel with
  | 0 => Step.exit 2
  | fuel + 1 => do
      let shell ← get
      match launchInShell shell name arguments with
      | .ok program => runProgram fuel program
      | .error error =>
          Step.complain (launchFault shell name error)
          let isMissing :=
            error = .notFound || error = .notDirectory
          Step.setStatus (if isMissing then 127 else 126)
termination_by structural fuel

def runProgram
    (fuel : Nat)
    (program : Launch) : Step Unit :=
  match fuel with
  | 0 => Step.exit 2
  | fuel + 1 => do
      if shellNames.contains program.name then
        Step.within "" (Step.apart (runShell fuel program))
      else if wrapperNames.contains program.name then
        Step.within program.title (runWrapped fuel program)
      else
        let tool :=
          (Tool.ofSystem? program.name).getD (Tool.status 127)
        Step.setStatus
          (← Step.within program.title (tool program.arguments))
termination_by structural fuel

/- Run a program that another one names. -/
def runWrapped
    (fuel : Nat)
    (program : Launch) : Step Unit :=
  match fuel with
  | 0 => Step.exit 2
  | fuel + 1 => do
      let wrapped :=
        Wrapped.ofArguments program.name program.arguments
      let option? := program.arguments.head?.filter isLongOption
      match option?, wrapped.words with
      | some option, _ =>
          Step.setStatus (← refuseOption program.name option)
      | none, [] => Step.setStatus 0
      | none, name :: arguments =>
          match launchInShell (← get) name arguments with
          | .ok inner =>
              Step.apart do
                assignNumbers wrapped.values
                Step.exportAll (wrapped.values.map Prod.fst)
                runProgram fuel inner
          | .error error =>
              Step.report
                (Wrapped.refusal program.name name error)
              Step.setStatus
                (if error = .notFound then 127 else 126)
termination_by structural fuel

def runShell
    (fuel : Nat)
    (program : Launch) : Step Unit :=
  match fuel with
  | 0 => Step.exit 2
  | fuel + 1 => do
      let isBash := program.name == "bash"
      modify fun shell =>
        { Shell.start shell.disk program.title [] [] with
          isBash := isBash
          values := shell.exportedValues
          exported := shell.exported
          traps := shell.traps
          pipes := shell.pipes
          channels := shell.channels }
      match Start.ofArguments isBash program.arguments with
      | .error option =>
          Step.abort ("Illegal option " ++ option)
      | .ok start =>
          Builtin.switchOptions true (start.options isBash)
          let runIn
              (name : String)
              (arguments : List String)
              (script : List Char) : Step Unit := do
            modify fun shell =>
              { shell with name := name, arguments := arguments }
            runScript fuel script
            runFinally fuel
          match start.hasScript, start.operands with
          | true, [] => Step.abort "-c requires an argument"
          | true, [script] =>
              runIn program.title [] script.toList
          | true, script :: name :: arguments =>
              runIn name arguments script.toList
          | false, [] =>
              let input := Text.decodeLossy (← Step.readAll)
              runIn program.title [] input.toList
          | false, path :: arguments =>
              match (← get).disk.find path with
              | .ok (.file contents _) =>
                  runIn path arguments contents.toList
              | .ok .folder => Step.setStatus 0
              | .error error =>
                  Step.abort
                    (openFault "open" "No such file" path error)
termination_by structural fuel

/- Run commands each of which reads what the last one wrote. -/
def runPipeline
    (fuel : Nat)
    (isTested : Bool)
    (commands : List Command) : Step Unit :=
  match fuel, commands with
  | 0, _ => Step.exit 2
  | _, [] => return ()
  | fuel + 1, [last] => runApart fuel isTested last
  | fuel + 1, command :: rest => do
      let number ← Step.openPipe []
      Step.withChannels do
        Step.setChannel 1 (some (.pipe number))
        runApart fuel isTested command
      let first := (← get).status
      if ← Step.isRunning then
        Step.withChannels do
          Step.setChannel 0 (some (.pipe number))
          runPipeline fuel isTested rest
        let shell ← get
        if shell.hasOption Builtin.pipeOption &&
            shell.status = 0 then
          Step.setStatus first
termination_by structural fuel

/- Run a loop as long as its condition says so. -/
def runLoop
    (fuel : Nat)
    (isTested isUntil : Bool)
    (status : Nat)
    (condition body : Command) : Step Unit :=
  match fuel with
  | 0 => Step.exit 2
  | fuel + 1 => do
      run fuel true condition
      if ← Step.isRunning then
        if ((← get).status == 0) != isUntil then
          run fuel isTested body
          let status := (← get).status
          if ← endRound then
            runLoop fuel isTested isUntil status condition body
        else Step.setStatus status
      else
        let _ ← endRound
termination_by structural fuel

def runEach
    (fuel : Nat)
    (isTested : Bool)
    (name : String)
    (body : Command)
    (values : List String) : Step Unit :=
  match fuel, values with
  | 0, _ => Step.exit 2
  | _, [] => return ()
  | fuel + 1, value :: rest => do
      Step.assign name value
      if ← Step.isRunning then run fuel isTested body
      if ← endRound then runEach fuel isTested name body rest
termination_by structural fuel

end

------------------------------------------------------------
-- Executions
------------------------------------------------------------

/-
  What a program did: its two streams, the disk as it left it,
  and its end.
-/
structure Execution where
  output : List UInt8
  errors : List UInt8
  disk : Disk
  ending : Ending

def executionFuel : Nat := 10000

/- Run a program on an input. -/
def execute
    (disk : Disk)
    (program : Launch)
    (input : List UInt8) : Execution :=
  let start := Shell.start disk program.title [] input
  let ((), shell) :=
    (runProgram executionFuel program).run start
  let ending :=
    match shell.flow with
    | .ended ending => ending
    | _ => .exited shell.status
  ⟨shell.inPipe 1, shell.inPipe 2,
    { shell.disk with workFolder := disk.workFolder }, ending⟩

end Script

end TextMate
