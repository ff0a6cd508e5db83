import TextMate.Formatter.Script.Expansion

/-
  This file defines how the streams of commands are redirected
  to files, to other streams and to given texts.

  Key definitions include:
    * `Direction.open`
    * `Redirection.apply`
    * `redirected`
-/

namespace TextMate

namespace Script

------------------------------------------------------------
-- Channels
------------------------------------------------------------

/- What a shell says about a file that it cannot open. -/
def openFault
    (task missing path : String)
    (error : OsError) : String :=
  "cannot " ++ task ++ " " ++ path ++ ": " ++
    (if error = .notFound || error = .notDirectory then missing
    else error.description)

def openToRead
    (path : String) : Step (Except String Channel) := do
  if path = "/dev/null" then return .ok .nowhere
  if path = "/dev/stdin" then
    return .ok ((← Step.channel? 0).getD .nowhere)
  match (← get).disk.find path with
  | .ok (.file contents _) =>
      return .ok (.pipe (← Step.openPipe (Text.bytes contents)))
  | .ok .folder => return .ok .nowhere
  | .error error =>
      return .error (openFault "open" "No such file" path error)

def openToWrite
    (path : String)
    (appends : Bool) : Step (Except String Channel) := do
  let own (stream : Nat) : Step (Except String Channel) := do
    return .ok ((← Step.channel? stream).getD .nowhere)
  if path = "/dev/stdout" then own 1
  else if path = "/dev/stderr" then own 2
  else
    return (← Step.openFile path appends).mapError
      (openFault "create" "Directory nonexistent" path)

/- The channel of another stream.  A hyphen stands for none. -/
def duplicated
    (target : String) :
    Step (Except String (Option Channel)) := do
  if target = "-" then return .ok none
  match target.toNat? with
  | some stream =>
      match ← Step.channel? stream with
      | some channel => return .ok (some channel)
      | none => return .error (target ++ ": Bad file descriptor")
  | none =>
      Step.exit 2
      return .error "Syntax error: Bad fd number"

/- The channel that a redirection leads to. -/
def Direction.open
    (direction : Direction)
    (target : String) :
    Step (Except String (Option Channel)) := do
  match direction with
  | .read => return (← openToRead target).map some
  | .write => return (← openToWrite target false).map some
  | .append => return (← openToWrite target true).map some
  | .duplicate => duplicated target

------------------------------------------------------------
-- Redirections
------------------------------------------------------------

/- Redirect a stream.  False when that fails. -/
def Redirection.apply
    (nested : Nested) : Redirection → Step Bool
  | .given stream text => do
      let text ← expandText nested text
      let number ← Step.openPipe (Text.bytes text)
      Step.setChannel stream (some (.pipe number))
      return true
  | .to stream direction target => do
      let target ← expandText nested target
      match ← direction.open target with
      | .ok channel =>
          Step.setChannel stream channel
          return true
      | .error text =>
          Step.complain text
          return false

/- Redirect streams in order, up to one that fails. -/
def redirectAll
    (nested : Nested) : List Redirection → Step Bool
  | [] => return true
  | redirection :: rest => do
      if ← redirection.apply nested then redirectAll nested rest
      else return false

/-
  Run steps with streams redirected.  If that fails they do
  not run, and the shell may have to end.
-/
def redirected
    (nested : Nested)
    (redirections : List Redirection)
    (endsShell : Bool)
    (steps : Step Unit) : Step Unit :=
  Step.withChannels do
    if ← redirectAll nested redirections then
      if ← Step.isRunning then steps
    else if endsShell then Step.exit 2
    else Step.setStatus 2

end Script

end TextMate
