import TextMate.Formatter.Script.Arithmetic
import TextMate.Formatter.Script.Glob
import TextMate.Formatter.Script.Shell

/-
  This file defines what the words of a script stand for when
  it runs.

  A word is first replaced by pieces.  Pieces from expansions
  outside quotes are split at blanks, and a field with a
  pattern outside quotes stands for the names of files.

  Key definitions include:
    * `Piece`
    * `wordPieces`
    * `fields`
    * `expandWords`
    * `expandText`
    * `expandGlob`
-/

namespace TextMate

namespace Script

open Text (isDigit)

------------------------------------------------------------
-- Parameters
------------------------------------------------------------

def processNumber : String := "1"

/- The characters at which values are split. -/
def Shell.separators
    (shell : Shell) : List Char :=
  match List.lookup "IFS" shell.values with
  | some value => value.toList
  | none => [' ', '\t', '\n']

/- The text of several values in one. -/
def Shell.joined
    (shell : Shell)
    (values : List String) : String :=
  String.intercalate
    (String.ofList (shell.separators.take 1)) values

/- The letters of options in the order of their value. -/
def optionLetters : List Char := "uvxnfe".toList

/- The letters of the options that are set. -/
def Shell.optionText
    (shell : Shell) : String :=
  String.ofList (optionLetters.filter shell.hasOption)

/- The value of a parameter, if it has one. -/
def Shell.value?
    (shell : Shell)
    (name : String) : Option String :=
  match name with
  | "#" => some (toString shell.arguments.length)
  | "?" => some (toString shell.status)
  | "$" => some processNumber
  | "-" => some shell.optionText
  | "0" => some shell.name
  | "@" | "*" =>
      if shell.arguments.isEmpty then none
      else some (shell.joined shell.arguments)
  | name =>
      match name.toNat? with
      | some place => shell.arguments[place - 1]?
      | none => List.lookup name shell.values

------------------------------------------------------------
-- Pieces
------------------------------------------------------------

/-
  A piece of what a word stands for.  Text may be active: then
  it can be part of a pattern.  Loose text is split as well.
-/
inductive Piece where
  | text (value : List Char) (isActive : Bool)
  | loose (value : List Char)
  | divide
deriving DecidableEq

def Piece.ofValue
    (isQuoted : Bool)
    (value : String) : Piece :=
  if isQuoted then .text value.toList false
  else .loose value.toList

/- The pieces for all arguments, each one by itself. -/
def Piece.ofArguments
    (isQuoted : Bool)
    (arguments : List String) : List Piece :=
  (arguments.map fun value =>
    [Piece.ofValue isQuoted value]).intersperse [.divide]
    |>.flatten

/- The text of pieces, without division. -/
def Piece.textOf
    (pieces : List Piece) : List Char :=
  pieces.flatMap fun piece =>
    match piece with
    | .text value _ | .loose value => value
    | .divide => [' ']

/- Text without the ends of lines at its end. -/
def dropLineEnds
    (text : List Char) : List Char :=
  (text.reverse.dropWhile (· == '\n')).reverse

/- A nested script, run for its output. -/
abbrev Nested := List Char → Step (List UInt8)

def partsOf
    (isQuoted : Bool)
    (text : List Char) : Step Word := do
  let context : Context :=
    if isQuoted then .quotedOperand else .operand
  match Word.ofText context text with
  | .ok word => return word
  | .error _ =>
      Step.abort "Syntax error: Unterminated quoted string"
      return []

/- The complaint about a parameter without a value. -/
def missingText
    (name : String)
    (countsEmpty : Bool)
    (message : List Char) : String :=
  name ++ ": " ++
    (if message.isEmpty then
      "parameter not set" ++
        (if countsEmpty then " or null" else "")
    else String.ofList message)

/- End the shell for a parameter that has no value. -/
def refuseMissing
    (name : String) : Step Unit := do
  if (← get).isBash then
    Step.complain (name ++ ": unbound variable")
    Step.exit 1
  else Step.abort (missingText name false [])

/- Give names the values that an expression gives them. -/
def assignNumbers : List (String × String) → Step Unit
  | [] => return ()
  | (name, value) :: rest => do
      Step.assign name value
      assignNumbers rest

/- The pieces that words are replaced by. -/
mutual

def partPieces
    (nested : Nested) :
    (fuel : Nat) → Part → Step (List Piece)
  | 0, _ => return []
  | fuel + 1, part => do
      match part.fragment with
      | .text value => return [.text value (!part.isQuoted)]
      | .output script =>
          let output := Text.decodeLossy (← nested script)
          let text := dropLineEnds output.toList
          return [.ofValue part.isQuoted (String.ofList text)]
      | .number expression =>
          let word ← partsOf true expression
          let text ← wordPieces nested fuel word
          let shell ← get
          let value (name : String) : String :=
            (shell.value? name).getD ""
          let text := Piece.textOf text
          match Arithmetic.evaluate value text with
          | .ok (number, assigned) =>
              assignNumbers assigned
              return [.ofValue part.isQuoted (toString number)]
          | .error fault =>
              Step.abort (fault.text text)
              return []
      | .parameter name change =>
          parameterPieces nested fuel part.isQuoted name change
termination_by structural fuel => fuel

def parameterPieces
    (nested : Nested) :
    (fuel : Nat) →
    (isQuoted : Bool) →
    String →
    Change →
    Step (List Piece)
  | 0, _, _, _ => return []
  | fuel + 1, isQuoted, name, change => do
      let shell ← get
      let value := shell.value? name
      match change with
      | .invalid =>
          Step.abort "Bad substitution"
          return []
      | .keep =>
          if name = "@" || (name = "*" && !isQuoted) then
            return Piece.ofArguments isQuoted shell.arguments
          if value.isNone && shell.hasOption 'u' &&
              name ≠ "*" then
            refuseMissing name
          return [.ofValue isQuoted (value.getD "")]
      | .length =>
          let length := Text.byteLength (value.getD "").toList
          return [.ofValue isQuoted (toString length)]
      | .trim atStart isGreedy operand =>
          let word ← partsOf false operand
          let glob ← globOf nested fuel word
          let text := (value.getD "").toList
          let trimmed :=
            if atStart then glob.trimStart isGreedy text
            else glob.trimEnd isGreedy text
          return [.ofValue isQuoted (String.ofList trimmed)]
      | .fallback kind countsEmpty operand =>
          let isMissing :=
            value.isNone || (countsEmpty && value = some "")
          let word ← partsOf isQuoted operand
          let own : List Piece :=
            [.ofValue isQuoted (value.getD "")]
          match kind, isMissing with
          | .replace, true =>
              return [.ofValue isQuoted ""]
          | .replace, false | .use, true =>
              wordPieces nested fuel word
          | .assign, true =>
              let pieces ← wordPieces nested fuel word
              let text := String.ofList (Piece.textOf pieces)
              Step.assign name text
              return [.ofValue isQuoted text]
          | .fail, true =>
              let pieces ← wordPieces nested fuel word
              Step.abort
                (missingText name countsEmpty
                  (Piece.textOf pieces))
              return []
          | _, false => return own
termination_by structural fuel => fuel

/- The pattern that a word stands for. -/
def globOf
    (nested : Nested) :
    (fuel : Nat) → Word → Step Glob
  | 0, _ => return []
  | fuel + 1, word => do
      let pieces ← wordPieces nested fuel word
      return Glob.ofText <| pieces.flatMap fun piece =>
        match piece with
        | .text value isActive =>
            value.map fun c => (c, isActive)
        | .loose value => value.map fun c => (c, true)
        | .divide => [(' ', false)]
termination_by structural fuel => fuel

def wordPieces
    (nested : Nested) :
    (fuel : Nat) → Word → Step (List Piece)
  | 0, _ => return []
  | _, [] => return []
  | fuel + 1, part :: rest => do
      let pieces ← partPieces nested fuel part
      return pieces ++ (← wordPieces nested fuel rest)
termination_by structural fuel => fuel

end

def expansionFuel : Nat := 10000

------------------------------------------------------------
-- Fields
------------------------------------------------------------

/- Fields that are complete, and one that is begun. -/
structure Fields where
  done : List Glob.Source
  current : Option Glob.Source

namespace Fields

/- Put text at the end of the field that is begun. -/
def extend
    (fields : Fields)
    (text : Glob.Source) : Fields :=
  { fields with current := some (fields.current.getD [] ++ text) }

/- Complete the field that is begun, if there is one. -/
def close
    (fields : Fields) : Fields :=
  ⟨fields.done ++ fields.current.toList, none⟩

/-
  Add a character that is split at separators.  A separator
  that is no blank completes even an empty field.
-/
def addLoose
    (separators : List Char)
    (fields : Fields)
    (c : Char) : Fields :=
  if !separators.contains c then fields.extend [(c, true)]
  else if c == ' ' || c == '\t' || c == '\n' then fields.close
  else (fields.extend []).close

def add
    (separators : List Char)
    (fields : Fields) : Piece → Fields
  | .text value isActive =>
      fields.extend (value.map fun c => (c, isActive))
  | .loose value => value.foldl (addLoose separators) fields
  | .divide => ((fields.extend []).close).extend []

end Fields

def fields
    (separators : List Char)
    (pieces : List Piece) : List Glob.Source :=
  (pieces.foldl (Fields.add separators) ⟨[], none⟩).close.done

------------------------------------------------------------
-- Names of Files
------------------------------------------------------------

def fieldText
    (field : Glob.Source) : String :=
  String.ofList (field.map Prod.fst)

/- A field has a pattern. -/
def hasGlob
    (field : Glob.Source) : Bool :=
  field.any fun (c, isActive) =>
    isActive && (c == '*' || c == '?' || c == '[')

/-
  The paths that a field with a pattern in its last step
  stands for, in order.
-/
def matchingPaths
    (disk : Disk)
    (field : Glob.Source) : List String :=
  let last :=
    (field.reverse.takeWhile (·.1 != '/')).reverse
  let folder := fieldText (field.take (field.length - last.length))
  let glob := Glob.ofText last
  let shows (name : String) : Bool :=
    (name.toList.head? != some '.' ||
        last.head? == some ('.', true)) &&
      glob.accepts name.toList
  match disk.resolve (if folder = "" then "." else folder) with
  | .error _ => []
  | .ok place =>
      (((disk.names place).filter shows).mergeSort
        fun a b => decide (a ≤ b)).map (folder ++ ·)

def fieldTexts
    (shell : Shell)
    (field : Glob.Source) : List String :=
  if hasGlob field && !shell.hasOption 'f' then
    match matchingPaths shell.disk field with
    | [] => [fieldText field]
    | paths => paths
  else [fieldText field]

------------------------------------------------------------
-- Expansion
------------------------------------------------------------

/- The texts that a word stands for. -/
def expandWord
    (nested : Nested)
    (word : Word) : Step (List String) := do
  let pieces ← wordPieces nested expansionFuel word
  let shell ← get
  return (fields shell.separators pieces).flatMap
    (fieldTexts shell)

/- The texts that words stand for. -/
def expandWords
    (nested : Nested) : List Word → Step (List String)
  | [] => return []
  | word :: rest => do
      let texts ← expandWord nested word
      return texts ++ (← expandWords nested rest)

/- The text of a word that is not split. -/
def expandText
    (nested : Nested)
    (word : Word) : Step String := do
  let pieces ← wordPieces nested expansionFuel word
  return String.ofList (Piece.textOf pieces)

/- The pattern that a word stands for. -/
def expandGlob
    (nested : Nested)
    (word : Word) : Step Glob :=
  globOf nested expansionFuel word

end Script

end TextMate
