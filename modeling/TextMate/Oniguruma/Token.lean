import TextMate.Oniguruma.CharClass
import TextMate.Oniguruma.GroupName
import TextMate.Oniguruma.Node

/-
  This file defines the tokens of a pattern outside character
  classes, and what is known of its groups while it is read.

  Key definitions include:
    * `Scan`
    * `Scanner`
    * `Token`
    * `skipIgnored`
    * `nextToken`
-/

namespace TextMate

namespace Oniguruma

open Text (isDigit)

------------------------------------------------------------
-- Progress
------------------------------------------------------------

/-
  What is left of a pattern, and what is known of its groups:
  their number, those that are closed, and their names.
  `hasWhole` says that some group has options
  for the whole pattern.  Callouts define tags and use them.
-/
structure Scan where
  rest : List Char
  groups : Nat
  closed : List Nat
  names : List (List Char × Nat)
  calls : Nat
  hasWhole : Bool
  tags : List (List Char)
  usedTags : List (List Char)

/- A step that reads a part of a pattern. -/
abbrev Scanner := StateT Scan (Except Refusal)

namespace Scan

def start
    (text : List Char) : Scan :=
  ⟨text, 0, [], [], 0, false, [], []⟩

/- The groups of a name, in order of definition. -/
def groupsNamed
    (scan : Scan)
    (name : List Char) : List Nat :=
  scan.names.filterMap fun (known, group) =>
    if known = name then some group else none

/-
  The group at a distance from the next one.  None when there
  is no such number.
-/
def groupAt?
    (scan : Scan)
    (distance : Int) : Option Nat :=
  let group : Int :=
    if 0 < distance then (scan.groups : Int) + distance
    else (scan.groups : Int) + 1 + distance
  if 0 ≤ group && group ≤ maxNumber then some group.toNat
  else none

end Scan

namespace Scanner

/- The text that is left. -/
def rest : Scanner (List Char) := do
  return (← get).rest

/- Go on with another text. -/
def setRest
    (text : List Char) : Scanner Unit :=
  modify fun scan => { scan with rest := text }

end Scanner

------------------------------------------------------------
-- Tokens
------------------------------------------------------------

/-
  A token of a pattern.  `literal` is a character that stands
  for itself, `byte` and `codes` are text that is written by
  numbers, and `set` matches one character of several.
  `property` is a character property whose name is still to be
  read, and `keep` moves the start of the match.
-/
inductive Token where
  | finish
  | literal (letter : Letter)
  | set
  | lineBreak
  | segment
  | byte (value : Nat)
  | codes (values : List Nat)
  | property
  | anchor (anchor : Anchor)
  | keep
  | repeats (count : Repeat) (isPossessive : Bool)
  | opening
  | closing
  | bar
  | bracket
  | reference (groups : List Nat) (byName : Bool)
  | call (target : CallTarget)
deriving DecidableEq

------------------------------------------------------------
-- Ignored Text
------------------------------------------------------------

/- What is left after a comment group. -/
def skipComment :
    List Char → Except Refusal (List Char)
  | [] => .error .endInGroup
  | '\\' :: [] => .error .endInGroup
  | '\\' :: _ :: rest => skipComment rest
  | ')' :: rest => .ok rest
  | _ :: rest => skipComment rest

def isExtendedBlank
    (c : Char) : Bool :=
  c == ' ' || c == '\t' || c == '\n' || c == '\r' ||
    c == '\x0c'

/-
  What is left after comments, and after blanks in an extended
  pattern.
-/
def skipIgnored
    (extended : Bool) :
    (fuel : Nat) →
    List Char →
    Except Refusal (List Char)
  | 0, text => .ok text
  | fuel + 1, text =>
      match text with
      | '(' :: '?' :: '#' :: rest =>
          (skipComment rest).bind
            (skipIgnored extended fuel)
      | c :: rest =>
          if extended && isExtendedBlank c then
            skipIgnored extended fuel rest
          else if extended && c == '#' then
            skipIgnored extended fuel
              ((rest.dropWhile (· != '\n')).drop 1)
          else .ok text
      | [] => .ok []

------------------------------------------------------------
-- Repeats
------------------------------------------------------------

/- The greatest bound of a repeat. -/
def maxRepeat : Nat := 100000

/- A bound of a repeat, if it is not too big. -/
def checkBound
    (numeral : Numeral) : Except Refusal Unit :=
  if maxRepeat < numeral.value then .error .repeatTooBig
  else .ok ()

/- A repeat as far as it is written. -/
structure WrittenRepeat where
  count : Repeat
  isPossessive : Bool
  rest : List Char

/- A repeat between bounds, with the mark that makes it lazy. -/
def boundedRepeat
    (low : Nat)
    (high : Option Nat) : List Char → WrittenRepeat
  | '?' :: rest => ⟨⟨low, high, true⟩, false, rest⟩
  | rest => ⟨⟨low, high, false⟩, false, rest⟩

/-
  Read the bounds of a repeat after its brace.  None when the
  brace stands for itself.  Bounds in the wrong order are
  swapped and the repeat is possessive.  Then, as after a
  single bound, no mark that makes the repeat lazy follows.
-/
def readBounds?
    (text : List Char) :
    Except Refusal (Option WrittenRepeat) := do
  let low := takeDecimal text
  checkBound low
  match low.rest with
  | '}' :: rest =>
      if low.count = 0 then return none
      return some
        ⟨⟨low.value, some low.value, false⟩, false, rest⟩
  | ',' :: rest =>
      let high := takeDecimal rest
      checkBound high
      if low.count = 0 && high.count = 0 then return none
      match high.rest with
      | '}' :: rest =>
          if high.count = 0 then
            return some (boundedRepeat low.value none rest)
          else if high.value < low.value then
            return some
              ⟨⟨high.value, some low.value, false⟩, true, rest⟩
          else
            return some
              (boundedRepeat low.value (some high.value) rest)
      | _ => return none
  | _ => return none

/- Read the mark of laziness or possession after a repeat. -/
def markRepeat
    (low : Nat)
    (high : Option Nat) : List Char → WrittenRepeat
  | '?' :: rest => ⟨⟨low, high, true⟩, false, rest⟩
  | '+' :: rest => ⟨⟨low, high, false⟩, true, rest⟩
  | rest => ⟨⟨low, high, false⟩, false, rest⟩

def repeatToken
    (written : WrittenRepeat) : Scanner Token := do
  Scanner.setRest written.rest
  return .repeats written.count written.isPossessive

------------------------------------------------------------
-- References and Calls
------------------------------------------------------------

def resolveReference
    (group : NamedGroup) :
    Scanner (List Nat × Bool) := do
  let scan ← get
  match group.name with
  | .number value =>
      if value = 0 then throw .invalidReference
      return ([value], false)
  | .relative distance =>
      match scan.groupAt? distance with
      | some (value + 1) => return ([value + 1], false)
      | _ => throw .invalidReference
  | .name =>
      match scan.groupsNamed group.text with
      | [] => throw (.undefinedName group.text)
      | groups => return (groups, true)

def readReference
    (mark : Char)
    (text : List Char) : Scanner Token := do
  let group ← readReferenceName (closingMark mark) text
  let (groups, byName) ← resolveReference group
  Scanner.setRest group.rest
  return .reference groups byName

def readCall
    (mark : Char)
    (text : List Char) : Scanner Token := do
  let group ← readGroupName (closingMark mark) true text
  let scan ← get
  let target ←
    match group.name with
    | .number value => pure (.number value group.text)
    | .relative distance =>
        match scan.groupAt? distance with
        | some value => pure (.number value group.text)
        | none => throw (.undefinedGroup group.text)
    | .name => pure (.name group.text)
  Scanner.setRest group.rest
  return .call target

def maxPlainReference : Nat := 1000

/-
  Read a reference by its number alone.  A number of several
  digits that has no group yet is an octal number instead, or
  a digit that stands for itself.
-/
def readDigits
    (first : Char)
    (text : List Char) : Scanner Token := do
  let numeral := takeDecimal (first :: text)
  let scan ← get
  if first ≠ '0' && numeral.value ≤ maxPlainReference &&
      (numeral.value ≤ scan.groups || numeral.value ≤ 9) then
    Scanner.setRest numeral.rest
    return .reference [numeral.value] false
  else if first = '8' || first = '9' then
    Scanner.setRest text
    return .literal (.ofChar first)
  else
    let octal := takeOctal 3 (first :: text)
    Scanner.setRest octal.rest
    return .byte (octalByte octal.value)

------------------------------------------------------------
-- Escapes
------------------------------------------------------------

def anchorLetter? : Char → Option Anchor
  | 'b' | 'B' => some .wordEdge
  | 'A' => some .textStart
  | 'Z' => some .lastLineEnd
  | 'z' => some .textEnd
  | 'G' => some .searchStart
  | 'y' | 'Y' => some .segmentEdge
  | _ => none

def matchLetter? : Char → Option Token
  | 'R' => some .lineBreak
  | 'X' => some .segment
  | 'K' => some .keep
  | c =>
      if isSetLetter c || c == 'N' || c == 'O' then some .set
      else (anchorLetter? c).map .anchor

/- Read code points between braces, or else a plain letter. -/
def readTokenCodes
    (base : CodeBase)
    (letter : Letter)
    (text : List Char) : Scanner Token := do
  match ← readBracedCodes? base false false (text.drop 1) with
  | some codes =>
      Scanner.setRest codes.rest
      return .codes (codes.items.filterMap fun item =>
        match item with
        | .code value => some value
        | .range => none)
  | none =>
      Scanner.setRest text
      return .literal letter

/- Read what follows a backslash. -/
def readTokenEscape :
    List Char → Scanner Token
  | [] => throw .endAtEscape
  | c :: rest => do
      Scanner.setRest rest
      let letter := Letter.ofChar c
      match matchLetter? c with
      | some token => return token
      | none => pure ()
      if isDigit c then readDigits c rest
      else if c = 'p' || c = 'P' then
        match rest with
        | '{' :: '^' :: rest =>
            Scanner.setRest rest
            return .property
        | '{' :: rest =>
            Scanner.setRest rest
            return .property
        | _ => return .literal letter
      else if c = 'k' then
        match rest with
        | '<' :: rest => readReference '<' rest
        | '\'' :: rest => readReference '\'' rest
        | _ => return .literal letter
      else if c = 'g' then
        match rest with
        | '<' :: rest => readCall '<' rest
        | '\'' :: rest => readCall '\'' rest
        | _ => return .literal letter
      else if c = 'x' then
        match rest with
        | [] => return .literal letter
        | '{' :: _ => readTokenCodes .hexadecimal letter rest
        | _ =>
            let numeral := takeHex 2 rest
            Scanner.setRest numeral.rest
            return .byte numeral.value
      else if c = 'u' then
        if rest.isEmpty then return .literal letter
        let numeral := takeHex 4 rest
        if numeral.count < 4 then throw .invalidCodePoint
        Scanner.setRest numeral.rest
        return .codes [numeral.value]
      else if c = 'o' then
        match rest with
        | '{' :: _ => readTokenCodes .octal letter rest
        | _ => return .literal letter
      else
        let (code, rest) ← readEscapedValue (c :: rest)
        Scanner.setRest rest
        return if code = c.toNat then .literal letter
          else .codes [code]

------------------------------------------------------------
-- The Next Token
------------------------------------------------------------

def nextToken
    (extended : Bool) : Scanner Token := do
  let text ← Scanner.rest
  match ← skipIgnored extended (text.length + 1) text with
  | [] =>
      Scanner.setRest []
      return .finish
  | c :: rest =>
      Scanner.setRest rest
      match c with
      | '\\' => readTokenEscape rest
      | '.' => return .set
      | '^' => return .anchor .lineStart
      | '$' => return .anchor .lineEnd
      | '|' => return .bar
      | '(' => return .opening
      | ')' => return .closing
      | '[' => return .bracket
      | '*' => repeatToken (markRepeat 0 none rest)
      | '+' => repeatToken (markRepeat 1 none rest)
      | '?' => repeatToken (markRepeat 0 (some 1) rest)
      | '{' =>
          match ← readBounds? rest with
          | some written => repeatToken written
          | none => return .literal (.ofChar c)
      | _ => return .literal (.ofChar c)

end Oniguruma

end TextMate
