/-
  This file defines command lines: which arguments make a
  command, and which are refused.

  Key definitions include:
    * `OptionSpec`
    * `Parsed`
    * `parseArguments`
    * `Command`
    * `Command.ofArguments?`
-/

namespace TextMate

namespace CommandLine

------------------------------------------------------------
-- Options
------------------------------------------------------------

/- Whether an option has a value, and an empty one. -/
inductive OptionKind where
  | flag
  | text
  | path
deriving DecidableEq

abbrev OptionSpec := List (String × OptionKind)

/- The options that were given, and the plain arguments. -/
structure Parsed where
  options : List (String × String)
  plain : List String

namespace Parsed

/- Nothing was given. -/
def empty : Parsed := ⟨[], []⟩

def value?
    (parsed : Parsed)
    (name : String) : Option String :=
  List.lookup name parsed.options

/- A flag was given. -/
def has
    (parsed : Parsed)
    (name : String) : Bool :=
  (parsed.value? name).isSome

/- Add an option that was not given before. -/
def addOption
    (parsed : Parsed)
    (kind : OptionKind)
    (name : String)
    (value : String) : Option Parsed :=
  if parsed.has name || (kind = .path && value = "") then none
  else
    some
      { parsed with
        options := (name, value) :: parsed.options }

/- Add a plain argument, of which there is one at most. -/
def addPlain
    (parsed : Parsed)
    (value : String) : Option Parsed :=
  if parsed.plain ≠ [] || value = "" then none
  else some { parsed with plain := [value] }

end Parsed

/- A shape of argument. -/
inductive Shape where
  | plain
  | endOfOptions
  | option (name : String) (value : Option String)
  | refused

/- The name and the value of a long option. -/
def optionShape
    (text : List Char) : Shape :=
  let name := String.ofList (text.takeWhile (· != '='))
  match text.dropWhile (· != '=') with
  | _ :: value => .option name (some (String.ofList value))
  | [] => .option name none

/- The shape of an argument.  There are no short options. -/
def shape
    (argument : String) : Shape :=
  match argument.toList with
  | ['-', '-'] => .endOfOptions
  | '-' :: '-' :: text => optionShape text
  | ['-'] => .plain
  | '-' :: _ => .refused
  | _ => .plain

/- Add plain arguments in order. -/
def addAll
    (parsed : Parsed) : List String → Option Parsed
  | [] => some parsed
  | argument :: rest =>
      match parsed.addPlain argument with
      | some parsed => addAll parsed rest
      | none => none

/-
  Add an option.  If its value is to be the next argument then
  the option that waits for it is given.
-/
def addShape
    (spec : OptionSpec)
    (parsed : Parsed)
    (name : String)
    (value : Option String) :
    Option (Parsed × Option (String × OptionKind)) :=
  match List.lookup name spec, value with
  | none, _ | some .flag, some _ => none
  | some .flag, none =>
      (parsed.addOption .flag name "").map fun parsed =>
        (parsed, none)
  | some kind, some value =>
      (parsed.addOption kind name value).map fun parsed =>
        (parsed, none)
  | some kind, none => some (parsed, some (name, kind))

/-
  Read arguments behind those that were read, where an option
  may wait for its value.
-/
def parseFrom
    (spec : OptionSpec)
    (parsed : Parsed)
    (waiting : Option (String × OptionKind)) :
    List String → Option Parsed
  | [] => if waiting.isSome then none else some parsed
  | argument :: rest =>
      match waiting, shape argument with
      | some (name, kind), .plain =>
          match parsed.addOption kind name argument with
          | some parsed => parseFrom spec parsed none rest
          | none => none
      | some _, _ | none, .refused => none
      | none, .endOfOptions => addAll parsed rest
      | none, .plain =>
          match parsed.addPlain argument with
          | some parsed => parseFrom spec parsed none rest
          | none => none
      | none, .option name value =>
          match addShape spec parsed name value with
          | some (parsed, waiting) =>
              parseFrom spec parsed waiting rest
          | none => none

def parseArguments
    (spec : OptionSpec)
    (arguments : List String) : Option Parsed :=
  parseFrom spec .empty none arguments

------------------------------------------------------------
-- Commands
------------------------------------------------------------

/- How generated source is formatted. -/
structure Formatting where
  isOff : Bool
  program : Option String
  style : Option String
deriving DecidableEq

inductive Command where
  | decompile (path : String) (outFolder : String)
      (formatting : Formatting) (checkIncludes : Bool)
  | normalize (path : String) (outFolder : String)
      (name : Option String) (configFolder : Option String)
  | version
deriving DecidableEq

def decompileSpec : OptionSpec :=
  [("out", .path), ("no-format", .flag), ("rustfmt", .text),
    ("style", .path), ("check-includes", .flag)]

def normalizeSpec : OptionSpec :=
  [("out", .path), ("name", .text), ("config-dir", .path)]

def decompileCommand?
    (parsed : Parsed) : Option Command :=
  match parsed.plain with
  | [path] =>
      some
        (.decompile path ((parsed.value? "out").getD "out")
          ⟨parsed.has "no-format", parsed.value? "rustfmt",
            parsed.value? "style"⟩
          (parsed.has "check-includes"))
  | _ => none

def normalizeCommand?
    (parsed : Parsed) : Option Command :=
  match parsed.plain with
  | [path] =>
      some
        (.normalize path ((parsed.value? "out").getD "dist")
          (parsed.value? "name")
          (parsed.value? "config-dir"))
  | _ => none

def asksVersion
    (argument : String) : Bool :=
  argument = "--version" ||
    ['-', 'V'].isPrefixOf argument.toList

/- The command that arguments make, unless they are refused. -/
def Command.ofArguments? : List String → Option Command
  | "decompile" :: arguments =>
      (parseArguments decompileSpec arguments).bind
        decompileCommand?
  | "normalize" :: arguments =>
      (parseArguments normalizeSpec arguments).bind
        normalizeCommand?
  | argument :: _ =>
      if asksVersion argument then some .version else none
  | [] => none

end CommandLine

end TextMate
