import TextMate.Formatter.Script.Escape
import TextMate.Formatter.Script.Number
import TextMate.Formatter.Script.Shell

/-
  This file defines the commands that print their arguments:
  `echo`, and `printf` with a format that is used again as
  long as there are arguments.

  Key definitions include:
    * `Tool`
    * `Tool.echo`
    * `Format.Directive`
    * `Format.readDirectives`
    * `Tool.printf`
-/

namespace TextMate

namespace Script

open Text (isDigit)

/- A command: it takes arguments and leaves a status. -/
abbrev Tool := List String → Step Nat

/- Print the arguments, with a line end unless told not to. -/
def Tool.echo : Tool := fun arguments => do
  let (ends, arguments) :=
    match arguments with
    | "-n" :: rest => (false, rest)
    | arguments => (true, arguments)
  let text := (String.intercalate " " arguments).toList
  let ends := ends && !endsEarly text
  Step.write 1 (unescape true text ++ if ends then [10] else [])
  return 0

/- The argument is made of the letters of `echo`. -/
def isEchoOption
    (argument : String) : Bool :=
  match argument.toList with
  | '-' :: letter :: letters =>
      (letter :: letters).all "neE".toList.contains
  | _ => false

/- Print the arguments as they are, unless told otherwise. -/
def Tool.plainEcho : Tool := fun arguments => do
  let letters :=
    (arguments.takeWhile isEchoOption).flatMap String.toList
  let text :=
    String.intercalate " " (arguments.dropWhile isEchoOption)
  let isReplaced :=
    (letters.filter (·.toLower == 'e')).getLast? = some 'e'
  let ends :=
    !letters.contains 'n' &&
      !(isReplaced && endsEarly text.toList)
  Step.write 1
    ((if isReplaced then unescape true text.toList
      else Text.bytes text) ++
      if ends then [10] else [])
  return 0

namespace Format

------------------------------------------------------------
-- Formats
------------------------------------------------------------

/- How an argument is printed. -/
structure Conversion where
  flags : List Char
  width : Nat
  precision : Option Nat
  kind : Char
deriving DecidableEq

inductive Directive where
  | text (value : List Char)
  | convert (conversion : Conversion)
  | invalid (text : List Char)
deriving DecidableEq

/- Read a conversion after its sign. -/
def takeConversion?
    (text : List Char) : Option (Conversion × List Char) :=
  let isFlag (c : Char) : Bool := "#-+ 0".toList.contains c
  let flags := text.takeWhile isFlag
  let text := text.dropWhile isFlag
  let width := text.takeWhile isDigit
  let text := text.dropWhile isDigit
  let (precision, text) :=
    match text with
    | '.' :: rest =>
        (some (rest.takeWhile isDigit), rest.dropWhile isDigit)
    | text => (none, text)
  let number (digits : List Char) : Nat :=
    ((String.ofList digits).toNat?).getD 0
  match text with
  | [] => none
  | kind :: rest =>
      some (⟨flags, number width, precision.map number, kind⟩,
        rest)

def kinds : List Char := "bcsdiouxX".toList

/- Put a character in front of a format. -/
def addText
    (c : Char) : List Directive → List Directive
  | .text value :: rest => .text (c :: value) :: rest
  | directives => .text [c] :: directives

/- Read a format.  It stops at what is no conversion. -/
def readDirectives :
    (fuel : Nat) → List Char → List Directive
  | 0, _ => []
  | _, [] => []
  | fuel + 1, '%' :: '%' :: rest =>
      .text ['%'] :: readDirectives fuel rest
  | fuel + 1, '\\' :: c :: rest =>
      addText '\\' (addText c (readDirectives fuel rest))
  | fuel + 1, '%' :: rest =>
      match takeConversion? rest with
      | none => [.invalid ('%' :: rest)]
      | some (conversion, after) =>
          if kinds.contains conversion.kind then
            .convert conversion :: readDirectives fuel after
          else
            [.invalid
              ('%' :: rest.take (rest.length - after.length))]
  | fuel + 1, c :: rest => addText c (readDirectives fuel rest)

------------------------------------------------------------
-- Numbers
------------------------------------------------------------

/- The value of an argument, and a complaint about it. -/
def numberOf
    (argument : String) : Int × Option String :=
  match argument.toList with
  | [] => (0, none)
  | '\x27' :: c :: _ | '"' :: c :: _ => (c.toNat, none)
  | text =>
      let isNegative := text.head? = some '-'
      let digits :=
        if isNegative || text.head? = some '+' then text.drop 1
        else text
      let (value, rest) := Number.takeUnsigned digits
      let exact : Int := if isNegative then -value else value
      let value := Number.clamp exact
      let complain (reason : String) : Int × Option String :=
        (value, some (argument ++ ": " ++ reason))
      if rest.length = digits.length then
        complain "expected numeric value"
      else if !rest.isEmpty then
        complain "not completely converted"
      else if value ≠ exact then
        complain "Numerical result out of range"
      else (value, none)

/- The digits of a number in the base of a conversion. -/
def digitsOf
    (kind : Char)
    (number : Nat) : List Char :=
  match kind with
  | 'o' => Nat.toDigits 8 number
  | 'x' => Nat.toDigits 16 number
  | 'X' => (Nat.toDigits 16 number).map Char.toUpper
  | _ => Nat.toDigits 10 number

/- The sign and the digits of a number. -/
def printNumber
    (conversion : Conversion)
    (number : Int) : List Char × List Char :=
  let isSigned := conversion.kind = 'd' || conversion.kind = 'i'
  let magnitude :=
    if isSigned then number.natAbs
    else (number % Number.wordSize).toNat
  let digits := digitsOf conversion.kind magnitude
  let missing := conversion.precision.getD 1 - digits.length
  let digits := List.replicate missing '0' ++ digits
  let sign :=
    if !isSigned then []
    else if number < 0 then ['-']
    else if conversion.flags.contains '+' then ['+']
    else if conversion.flags.contains ' ' then [' ']
    else []
  (sign, digits)

------------------------------------------------------------
-- Printing
------------------------------------------------------------

/- Bytes filled up to the width of a conversion. -/
def pad
    (conversion : Conversion)
    (bytes : List UInt8) : List UInt8 :=
  let fill :=
    List.replicate (conversion.width - bytes.length) 32
  if conversion.flags.contains '-' then bytes ++ fill
  else fill ++ bytes

/- A number filled up to the width of a conversion. -/
def padNumber
    (conversion : Conversion)
    (sign digits : List Char) : List UInt8 :=
  let bytes (text : List Char) : List UInt8 :=
    Text.bytes (String.ofList text)
  let isZeroed :=
    conversion.flags.contains '0' &&
      !conversion.flags.contains '-' &&
      conversion.precision.isNone
  if isZeroed then
    let missing :=
      conversion.width - (sign.length + digits.length)
    bytes (sign ++ List.replicate missing '0' ++ digits)
  else pad conversion (bytes (sign ++ digits))

/- The bytes for an argument, and a complaint about it. -/
def convert
    (conversion : Conversion)
    (argument : String) : List UInt8 × Option String :=
  let cut (bytes : List UInt8) : List UInt8 :=
    match conversion.precision with
    | some limit => bytes.take limit
    | none => bytes
  match conversion.kind with
  | 's' => (pad conversion (cut (Text.bytes argument)), none)
  | 'b' =>
      (pad conversion (cut (unescape true argument.toList)),
        none)
  | 'c' => (pad conversion ((Text.bytes argument).take 1), none)
  | _ =>
      let (number, complaint) := numberOf argument
      let (sign, digits) := printNumber conversion number
      (padNumber conversion sign digits, complaint)

/- Arguments that are left, and the status so far. -/
structure Progress where
  arguments : List String
  status : Nat
  isStopped : Bool

def printOnce :
    List Directive → Progress → Step Progress
  | [], progress => return progress
  | .text value :: rest, progress => do
      Step.write 1 (unescape false value)
      printOnce rest progress
  | .invalid text :: _, progress => do
      Step.complain
        (if text = ['%'] then "missing format character"
        else String.ofList text ++ ": invalid directive")
      return { progress with status := 2, isStopped := true }
  | .convert conversion :: rest, progress => do
      let argument := progress.arguments.head?.getD ""
      let (bytes, complaint) := convert conversion argument
      Step.write 1 bytes
      let progress :=
        { progress with arguments := progress.arguments.drop 1 }
      if conversion.kind = 'b' && endsEarly argument.toList then
        return { progress with isStopped := true }
      match complaint with
      | some text =>
          Step.complain text
          printOnce rest { progress with status := 1 }
      | none => printOnce rest progress

def printAll
    (directives : List Directive) :
    (fuel : Nat) → Progress → Step Nat
  | 0, progress => return progress.status
  | fuel + 1, progress => do
      let after ← printOnce directives progress
      if after.isStopped || after.arguments.isEmpty ||
          after.arguments.length = progress.arguments.length then
        return after.status
      else printAll directives fuel after

def printArguments
    (arguments : List String) : Step Nat := do
  match arguments with
  | [] =>
      Step.complain "usage: printf format [arg ...]"
      return 2
  | format :: arguments =>
      let text := format.toList
      printAll (readDirectives (text.length + 1) text)
        (arguments.length + 1) ⟨arguments, 0, false⟩

end Format

/- Print arguments by a format. -/
def Tool.printf : Tool := fun arguments => do
  match arguments with
  | [] => Format.printArguments []
  | "--" :: rest => Format.printArguments rest
  | argument :: _ =>
      match argument.toList with
      | '-' :: letter :: _ =>
          Step.complain
            ("Illegal option -" ++ String.singleton letter)
          return 2
      | _ => Format.printArguments arguments

end Script

end TextMate
