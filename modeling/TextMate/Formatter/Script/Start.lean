import TextMate.Formatter.Script.Builtin

/-
  This file defines how a shell is started by its arguments:
  with options, and with a script or the path of one.

  Key definitions include:
    * `Start`
    * `Start.ofArguments`
-/

namespace TextMate

namespace Script

/- How a shell is started by arguments. -/
structure Start where
  letters : List Char
  names : List String
  operands : List String

def startLetters : List Char :=
  ['c', 'l'] ++ Builtin.optionNames.map Prod.fst

/- A part of the arguments of a shell is refused. -/
abbrev Refused (α : Type) := Except String α

/-
  Read the arguments that a shell is started with.  The letter
  `o` stands for the option that the next argument names.
-/
def Start.ofArguments
    (isBash : Bool) : List String → Refused Start
  | [] => return ⟨[], [], []⟩
  | argument :: rest => do
      match argument.toList with
      | ['-'] | ['-', '-'] => return ⟨[], [], rest⟩
      | '-' :: letters =>
          let takesName := letters.contains 'o'
          let name := rest.head?.getD ""
          let isKnown (c : Char) : Bool :=
            c == 'o' || startLetters.contains c
          match letters.find? (fun c => !isKnown c) with
          | some letter =>
              throw ("-" ++ String.singleton letter)
          | none => pure ()
          if takesName &&
              (Builtin.optionLetter? isBash name).isNone then
            throw ("-o " ++ name)
          match takesName, rest with
          | true, _ :: rest =>
              let start ← Start.ofArguments isBash rest
              return { start with
                letters := letters ++ start.letters
                names := name :: start.names }
          | _, rest =>
              let start ← Start.ofArguments isBash rest
              return { start with
                letters := letters ++ start.letters }
      | _ => return ⟨[], [], argument :: rest⟩

/- The letters of the options that are set. -/
def Start.options
    (isBash : Bool)
    (start : Start) : List Char :=
  start.letters.filter (Builtin.optionNames.map Prod.fst).contains
    ++ start.names.filterMap (Builtin.optionLetter? isBash)

/- The first operand is a script, and not the path of one. -/
def Start.hasScript
    (start : Start) : Bool :=
  start.letters.contains 'c'

end Script

end TextMate
