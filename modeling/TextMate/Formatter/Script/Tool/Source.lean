import TextMate.Formatter.Script.Tool.Print

/-
  This file defines how commands read their arguments and
  their sources: the input, or files with names.

  Key definitions include:
    * `lines`
    * `readSources`
    * `Tool.filter`
    * `options`
-/

namespace TextMate

namespace Script

------------------------------------------------------------
-- Lines
------------------------------------------------------------

/- The lines of bytes, each with the mark of its end. -/
def lines : List UInt8 → List (List UInt8)
  | [] => []
  | byte :: rest =>
      if byte = 10 then [10] :: lines rest
      else
        match lines rest with
        | [] => [[byte]]
        | line :: more => (byte :: line) :: more

/- A line without the mark of its end. -/
def lineText
    (line : List UInt8) : List UInt8 :=
  line.takeWhile (· != 10)

/- A line with the mark of its end. -/
def ended
    (line : List UInt8) : List UInt8 :=
  lineText line ++ [10]

------------------------------------------------------------
-- Sources
------------------------------------------------------------

/- What a command says about a file that it cannot read. -/
abbrev Blame := String → OsError → String

/- The usual text about a file. -/
def blame : Blame := fun path error =>
  path ++ ": " ++ error.description

/- The text about a task that fails for a path. -/
def blameTask
    (before after : String) : Blame := fun path error =>
  before ++ " '" ++ path ++ "'" ++ after ++ ": " ++
    error.description

/- The text of a command that opens a file. -/
def blameOpen : Blame :=
  blameTask "cannot open" " for reading"

/- Read files in order, without those that cannot be read. -/
def readSources
    (blame : Blame) :
    List String → Step (List (String × List UInt8) × Bool)
  | [] => return ([], true)
  | path :: rest => do
      match ← Step.readSource path with
      | .ok bytes =>
          let (sources, allRead) ← readSources blame rest
          return ((path, bytes) :: sources, allRead)
      | .error error =>
          Step.report (blame path error)
          let (sources, _) ← readSources blame rest
          return (sources, false)

/- The paths to read: the input when no other is given. -/
def sourcePaths
    (paths : List String) : List String :=
  if paths.isEmpty then ["-"] else paths

/- Print a change of all that is read. -/
def Tool.filter
    (blame : Blame)
    (change : List UInt8 → List UInt8)
    (paths : List String) : Step Nat := do
  let (sources, allRead) ←
    readSources blame (sourcePaths paths)
  Step.write 1 (change (sources.flatMap Prod.snd))
  return if allRead then 0 else 1

------------------------------------------------------------
-- Options
------------------------------------------------------------

/-
  The option letters in arguments, and the other arguments.  A
  letter of `valued` takes the text after it, or else the next
  argument.  After two hyphens there are no options.
-/
def takeOptions
    (valued : List Char) :
    (fuel : Nat) →
    List String →
    List (Char × String) × List String
  | 0, arguments => ([], arguments)
  | _, [] => ([], [])
  | _, "--" :: rest => ([], rest)
  | fuel + 1, argument :: rest =>
      match argument.toList with
      | '-' :: letter :: text =>
          if valued.contains letter then
            let (value, rest) :=
              if text.isEmpty then
                (rest.head?.getD "", rest.drop 1)
              else (String.ofList text, rest)
            let (options, others) := takeOptions valued fuel rest
            ((letter, value) :: options, others)
          else
            let further :=
              if text.isEmpty then rest
              else String.ofList ('-' :: text) :: rest
            let (options, others) :=
              takeOptions valued fuel further
            ((letter, "") :: options, others)
      | _ =>
          let (options, others) := takeOptions valued fuel rest
          (options, argument :: others)

def options
    (valued : List Char)
    (arguments : List String) :
    List (Char × String) × List String :=
  takeOptions valued
    ((String.join arguments).length + arguments.length + 1)
    arguments

def optionValue?
    (given : List (Char × String))
    (letter : Char) : Option String :=
  List.lookup letter given

def hasOption
    (given : List (Char × String))
    (letter : Char) : Bool :=
  (optionValue? given letter).isSome

end Script

end TextMate
