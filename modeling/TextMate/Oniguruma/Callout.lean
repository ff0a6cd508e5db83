import TextMate.Oniguruma.Escape

/-
  This file defines how callouts are read.  A callout is given
  by its contents between braces, or by the name of one that
  is always there, with arguments.  It may have a tag, and an
  argument may use the tag of another callout.

  Key definitions include:
    * `Callout`
    * `ArgumentKind`
    * `CalloutShape`
    * `readContents`
    * `readNamedCallout`
-/

namespace TextMate

namespace Oniguruma

open Text (isDigit isAlphanumeric)

/- A callout as far as other callouts depend on it. -/
structure Callout where
  tag : Option (List Char)
  uses : List (List Char)
  rest : List Char

/- The text can name a callout or be a tag. -/
def isCalloutName
    (name : List Char) : Bool :=
  !name.isEmpty &&
    name.all (fun c => isAlphanumeric c || c == '_') &&
    !(name.head?.any isDigit)

------------------------------------------------------------
-- Tags
------------------------------------------------------------

/-
  Read a tag between brackets, if there is one.  Without its
  closing bracket a tag ends before the last character.
-/
def readTag
    (text : List Char) :
    Except Refusal (Option (List Char) × List Char) :=
  match text with
  | '[' :: [] => .error .endInGroup
  | '[' :: rest =>
      let upTo := rest.takeWhile (· != ']')
      let after := rest.dropWhile (· != ']')
      let tag := if after.isEmpty then rest.dropLast else upTo
      if !isCalloutName tag then .error .invalidCalloutTag
      else
        match after.drop 1 with
        | [] => .error .endInGroup
        | rest => .ok (some tag, rest)
  | text => .ok (none, text)

------------------------------------------------------------
-- Callouts by Contents
------------------------------------------------------------

/- What is left after contents that some braces close. -/
def skipContents
    (braces : List Char) :
    List Char → Except Refusal (List Char)
  | [] => .error .invalidCallout
  | c :: rest =>
      if braces.isPrefixOf (c :: rest) then
        .ok (rest.drop (braces.length - 1))
      else skipContents braces rest

/- Read the mark of the direction in which a callout runs. -/
def skipDirection
    (text : List Char) : Except Refusal (List Char) :=
  match text with
  | [] => .ok []
  | c :: rest =>
      if c = 'X' || c = '<' || c = '>' then
        if rest.isEmpty then .error .endInGroup else .ok rest
      else .ok text

def readContents
    (text : List Char) : Except Refusal Callout := do
  let inner := text.dropWhile (· == '{')
  let nested := text.length - inner.length
  let rest ←
    skipContents (List.replicate (nested + 1) '}') inner
  if rest.isEmpty then throw .endInGroup
  let (tag, rest) ← readTag rest
  match ← skipDirection rest with
  | ')' :: rest => return ⟨tag, [], rest⟩
  | _ => throw .invalidCallout

------------------------------------------------------------
-- Arguments
------------------------------------------------------------

/- What an argument of a callout may be. -/
inductive ArgumentKind where
  | character
  | string
  | number
  | tagOrNumber
deriving DecidableEq

/- An argument as it is written, with its escapes undone. -/
structure Argument where
  text : List Char
  isEscaped : Bool

/- The character is special in an argument. -/
def isArgumentMark
    (c : Char) : Bool :=
  c == '\\' || c == '}' || c == ','

/-
  Read an argument with the mark that ends it.  A backslash
  makes a mark ordinary, and stays before other characters.
-/
def takeArgument? :
    List Char → Option (Argument × Char × List Char)
  | [] => none
  | '\\' :: [] => none
  | '\\' :: c :: rest =>
      (takeArgument? rest).map fun (argument, mark, rest) =>
        let text :=
          if isArgumentMark c then c :: argument.text
          else '\\' :: c :: argument.text
        (⟨text, true⟩, mark, rest)
  | c :: rest =>
      if isArgumentMark c then some (⟨[], false⟩, c, rest)
      else
        (takeArgument? rest).map fun (argument, mark, rest) =>
          ({ argument with text := c :: argument.text },
            mark, rest)

/- The greatest number of arguments that are read. -/
def maxArguments : Nat := 4

/-
  Read arguments up to the closing brace.  Empty ones do not
  count.  `limit` is the number of arguments still allowed.
-/
def readArguments :
    (fuel limit : Nat) →
    List Char →
    Except Refusal (List Argument × List Char)
  | 0, _, _ => .error .invalidCallout
  | _, 0, _ => .error .invalidCallout
  | fuel + 1, limit + 1, text =>
      match takeArgument? text with
      | none => .error .invalidCallout
      | some (argument, mark, rest) =>
          let isEmpty := argument.text.isEmpty
          let found := if isEmpty then [] else [argument]
          if mark = ',' then
            (readArguments fuel
              (if isEmpty then limit + 1 else limit) rest).map
              fun (further, rest) => (found ++ further, rest)
          else .ok (found, rest)

def maxArgumentBytes : Nat := 128

def maxArgumentNumber : Nat := Nat.pow 2 63 - 1

def isArgumentNumber
    (text : List Char) : Bool :=
  let digits :=
    match text with
    | '+' :: digits | '-' :: digits => digits
    | digits => digits
  digits.all isDigit &&
    (takeDecimal digits).value ≤ maxArgumentNumber

def checkArgument
    (kind : ArgumentKind)
    (argument : Argument) : Except Refusal (List (List Char)) :=
  match kind with
  | .string => .ok []
  | .character =>
      if argument.text.length = 1 then .ok []
      else .error .invalidCalloutArgument
  | .number =>
      if isArgumentNumber argument.text then .ok []
      else .error .invalidCalloutArgument
  | .tagOrNumber =>
      if isArgumentNumber argument.text then .ok []
      else if argument.isEscaped ||
          !isCalloutName argument.text then
        .error .invalidCalloutTag
      else .ok [argument.text]

/- Check arguments in order and return the tags they use. -/
def checkArguments
    (kinds : List ArgumentKind) :
    List Argument → Except Refusal (List (List Char))
  | [] => .ok []
  | argument :: rest =>
      if maxArgumentBytes < Text.byteLength argument.text then
        .error .invalidCalloutArgument
      else
        match kinds with
        | [] => .error .invalidCalloutArgument
        | kind :: kinds => do
            let uses ← checkArgument kind argument
            return uses ++ (← checkArguments kinds rest)

------------------------------------------------------------
-- Callouts by Name
------------------------------------------------------------

/-
  A callout that is always there, with its arguments and the
  number of those at the end that may be left out.
-/
structure CalloutShape where
  name : String
  arguments : List ArgumentKind
  optional : Nat

/- The callouts that are always there. -/
def calloutShapes : List CalloutShape :=
  [⟨"FAIL", [], 0⟩,
    ⟨"MISMATCH", [], 0⟩,
    ⟨"ERROR", [.number], 1⟩,
    ⟨"MAX", [.tagOrNumber, .character], 1⟩,
    ⟨"COUNT", [.character], 1⟩,
    ⟨"TOTAL_COUNT", [.character], 1⟩,
    ⟨"CMP", [.tagOrNumber, .string, .tagOrNumber], 0⟩]

def findCallout
    (name : List Char) : Except Refusal CalloutShape :=
  match calloutShapes.find? (·.name.toList == name) with
  | some shape => .ok shape
  | none => .error .undefinedCallout

def CalloutShape.takes
    (shape : CalloutShape)
    (count : Nat) : Bool :=
  count ≤ shape.arguments.length &&
    shape.arguments.length ≤ count + shape.optional

/-
  Read arguments after their opening brace, with the shape of
  the callout that takes them.  A callout with arguments has
  nothing after them.
-/
def readGivenArguments
    (name text : List Char) :
    Except Refusal
      (CalloutShape × Nat × List (List Char) × List Char) := do
  let (arguments, rest) ←
    readArguments (text.length + 1) maxArguments text
  if rest.head? ≠ some ')' then throw .undefinedCallout
  let shape ← findCallout name
  let uses ← checkArguments shape.arguments arguments
  return (shape, arguments.length, uses, rest)

def readNamedCallout
    (text : List Char) : Except Refusal Callout := do
  let ends (c : Char) : Bool :=
    c == '[' || c == '{' || c == ')'
  if text.isEmpty then throw .invalidCallout
  let name := text.takeWhile (fun c => !ends c)
  let rest := text.dropWhile (fun c => !ends c)
  if rest.isEmpty then throw .endInGroup
  if !isCalloutName name then throw .invalidCalloutName
  let (tag, rest) ← readTag rest
  let (shape, count, uses, rest) ←
    match rest with
    | '{' :: [] => throw .endInGroup
    | '{' :: rest => readGivenArguments name rest
    | rest => do
        let shape ← findCallout name
        pure (shape, 0, [], rest)
  if !shape.takes count then throw .invalidCalloutArgument
  match rest with
  | ')' :: rest => return ⟨tag, uses, rest⟩
  | _ => throw .invalidCallout

end Oniguruma

end TextMate
