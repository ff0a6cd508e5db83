import TextMate.Formatter.Script.Tool.Regex
import TextMate.Formatter.Script.Tool.Source

/-
  This file defines the command that edits lines.  Each edit
  is for all lines or for those at its addresses.

  Key definitions include:
    * `Edit.Address`
    * `Edit.Action`
    * `Edit.readScript?`
    * `Edit.editLines`
    * `Tool.sed`
-/

namespace TextMate

namespace Script

open Text (isDigit)

namespace Edit

------------------------------------------------------------
-- Edits
------------------------------------------------------------

/- The lines that an edit is for. -/
inductive Address where
  | line (number : Nat)
  | last
  | matching (regex : Regex)

/- A part of what takes the place of a match. -/
inductive Part where
  | text (bytes : List UInt8)
  | group (number : Nat)

/- What an edit does with a line. -/
inductive Action where
  | replace
      (regex : Regex)
      (parts : List Part)
      (occurrence : Option Nat)
      (prints : Bool)
  | translate (source target : List UInt8)
  | delete
  | print
  | printNumber
  | quit
  | append (text : List UInt8)
  | insert (text : List UInt8)
  | change (text : List UInt8)

/- An edit with the lines that it is for. -/
structure Command where
  first : Option Address
  last : Option Address
  isNegated : Bool
  action : Action

------------------------------------------------------------
-- Reading
------------------------------------------------------------

/-
  The text up to a mark, and what follows it.  A backslash
  makes the mark ordinary.
-/
def takeUntil?
    (mark : Char) :
    List Char → Option (List Char × List Char)
  | [] => none
  | '\\' :: c :: rest =>
      (takeUntil? mark rest).map fun (text, rest) =>
        (if c = mark then c :: text else '\\' :: c :: text,
          rest)
  | c :: rest =>
      if c = mark then some ([], rest)
      else
        (takeUntil? mark rest).map fun (text, rest) =>
          (c :: text, rest)

/- The parts of what takes the place of a match. -/
def readParts : List Char → List Part
  | [] => []
  | '\\' :: c :: rest =>
      (if isDigit c then .group (c.toNat - '0'.toNat)
      else if c = 'n' then .text [10]
      else if c = 't' then .text [9]
      else .text (String.utf8EncodeChar c)) :: readParts rest
  | '&' :: rest => .group 0 :: readParts rest
  | c :: rest =>
      .text (String.utf8EncodeChar c) :: readParts rest

/- Text without the blanks at its start. -/
def skipBlanks
    (text : List Char) : List Char :=
  text.dropWhile fun c => c == ' ' || c == '\t'

/- The expression for characters. -/
def regexOf
    (isExtended : Bool)
    (text : List Char) : Regex :=
  Regex.ofText isExtended (String.ofList text)

/- Read the lines that an edit is for, if they are given. -/
def readAddress?
    (isExtended : Bool)
    (text : List Char) : Option Address × List Char :=
  match text with
  | '$' :: rest => (some .last, rest)
  | '/' :: rest =>
      match takeUntil? '/' rest with
      | some (pattern, rest) =>
          (some (.matching (regexOf isExtended pattern)), rest)
      | none => (none, text)
  | text =>
      let digits := text.takeWhile isDigit
      match (String.ofList digits).toNat? with
      | some number => (some (.line number), text.drop digits.length)
      | none => (none, text)

def readReplace?
    (isExtended : Bool)
    (text : List Char) : Option (Action × List Char) := do
  let mark ← text.head?
  let (pattern, rest) ← takeUntil? mark (text.drop 1)
  let (parts, rest) ← takeUntil? mark rest
  let isFlag (c : Char) : Bool := isDigit c || c == 'g' || c == 'p'
  let flags := rest.takeWhile isFlag
  let number := (String.ofList (flags.filter isDigit)).toNat?
  let occurrence :=
    if flags.contains 'g' then none else some (number.getD 1)
  return (.replace (regexOf isExtended pattern) (readParts parts)
    occurrence (flags.contains 'p'), rest.dropWhile isFlag)

/-
  The line of text that an edit brings, and what follows it.
  It may stand behind a backslash and a line end.
-/
def takeText
    (text : List Char) : List UInt8 × List Char :=
  let text :=
    match skipBlanks text with
    | '\\' :: '\n' :: text => text
    | '\\' :: text => text
    | text => text
  (Text.bytes (String.ofList (text.takeWhile (· != '\n'))) ++
      [10],
    text.dropWhile (· != '\n'))

def readAction?
    (isExtended : Bool)
    (text : List Char) : Option (Action × List Char) :=
  let bytes (text : List Char) : List UInt8 :=
    Text.bytes (String.ofList text)
  match text with
  | 's' :: rest => readReplace? isExtended rest
  | 'y' :: rest => do
      let mark ← rest.head?
      let (source, rest) ← takeUntil? mark (rest.drop 1)
      let (target, rest) ← takeUntil? mark rest
      return (.translate (bytes source) (bytes target), rest)
  | 'd' :: rest => some (.delete, rest)
  | 'p' :: rest => some (.print, rest)
  | '=' :: rest => some (.printNumber, rest)
  | 'q' :: rest => some (.quit, rest)
  | 'a' :: rest =>
      let (line, rest) := takeText rest
      some (.append line, rest)
  | 'i' :: rest =>
      let (line, rest) := takeText rest
      some (.insert line, rest)
  | 'c' :: rest =>
      let (line, rest) := takeText rest
      some (.change line, rest)
  | _ => none

/- Read edits between line ends or semicolons. -/
def readScript?
    (isExtended : Bool) :
    (fuel : Nat) → List Char → Option (List Command)
  | 0, _ => none
  | fuel + 1, text =>
      let isDivider (c : Char) : Bool :=
        c == ' ' || c == '\t' || c == '\n' || c == ';'
      match text.dropWhile isDivider with
      | [] => some []
      | text => do
          let (first, rest) := readAddress? isExtended text
          let (last, rest) :=
            match rest with
            | ',' :: rest => readAddress? isExtended rest
            | rest => (none, rest)
          let rest := skipBlanks rest
          let isNegated := rest.head? = some '!'
          let rest :=
            if isNegated then skipBlanks (rest.drop 1) else rest
          let (action, rest) ← readAction? isExtended rest
          let commands ← readScript? isExtended fuel rest
          return ⟨first, last, isNegated, action⟩ :: commands

------------------------------------------------------------
-- Replacement
------------------------------------------------------------

/- What takes the place of a match. -/
def replacement
    (found : Regex.Found)
    (parts : List Part) : List UInt8 :=
  parts.flatMap fun part =>
    match part with
    | .text bytes => bytes
    | .group 0 => found.place.upTo found.after
    | .group number =>
        (List.lookup number found.after.groups).getD []

/-
  A line with matches replaced from some place on: one of
  them by its number, or each.  Right after a match an empty
  one does not count.
-/
def replaceFrom
    (regex : Regex)
    (parts : List Part)
    (occurrence : Option Nat) :
    (fuel number : Nat) →
    (atStart afterMatch : Bool) →
    List UInt8 →
    List UInt8 × Bool
  | 0, _, _, _, rest => (rest, false)
  | fuel + 1, number, atStart, afterMatch, rest =>
      match regex.findFrom? (Regex.fuelFor rest) atStart rest with
      | none => (rest, false)
      | some found =>
          let matched := found.place.upTo found.after
          let isEmpty := matched.isEmpty
          let counts :=
            !(isEmpty && afterMatch && found.before.isEmpty)
          let isMeant := counts && occurrence.all (· == number)
          let shown :=
            if isMeant then replacement found parts else matched
          let step := if isEmpty then 1 else 0
          let after := found.after.rest
          let isDone :=
            (isMeant && occurrence.isSome) ||
              (isEmpty && after.isEmpty)
          let (others, further) :=
            if isDone then (after, false)
            else
              let (others, further) :=
                replaceFrom regex parts occurrence fuel
                  (if counts then number + 1 else number) false
                  (!isEmpty) (after.drop step)
              (after.take step ++ others, further)
          (found.before ++ shown ++ others, isMeant || further)

------------------------------------------------------------
-- Editing
------------------------------------------------------------

/- What comes of a line: what is printed, and how it goes on. -/
structure State where
  line : List UInt8
  printed : List UInt8
  later : List UInt8
  isDeleted : Bool
  quits : Bool

def Address.holds
    (number : Nat)
    (isLast : Bool)
    (line : List UInt8) : Address → Bool
  | .line own => own == number
  | .last => isLast
  | .matching regex => (regex.find? line).isSome

/-
  An edit is for a line.  `isOpen` says that a range of lines
  was begun and not yet ended; so it may be from here on.
-/
def Command.isFor
    (command : Command)
    (number : Nat)
    (isLast isOpen : Bool)
    (line : List UInt8) : Bool × Bool :=
  match command.first, command.last with
  | none, _ => (true, false)
  | some first, none => (first.holds number isLast line, false)
  | some first, some stop =>
      if isOpen then (true, !stop.holds number isLast line)
      else if first.holds number isLast line then
        let isShort :=
          match stop with
          | .line own => own ≤ number
          | _ => false
        (true, !isShort)
      else (false, false)

/- Do what an edit does with a line. -/
def Action.apply
    (number : Nat)
    (state : State) : Action → State
  | .replace regex parts occurrence prints =>
      let (line, isChanged) :=
        replaceFrom regex parts occurrence
          (state.line.length + 2) 1 true false state.line
      { state with
        line := line
        printed :=
          if prints && isChanged then
            state.printed ++ line ++ [10]
          else state.printed }
  | .translate source target =>
      { state with
        line :=
          state.line.map fun byte =>
            ((source.idxOf? byte).bind
              (target[·]?)).getD byte }
  | .delete => { state with isDeleted := true }
  | .print =>
      { state with printed := state.printed ++ state.line ++ [10] }
  | .printNumber =>
      { state with
        printed :=
          state.printed ++
            Text.bytes (toString number ++ "\n") }
  | .quit => { state with quits := true }
  | .append text => { state with later := state.later ++ text }
  | .insert text =>
      { state with printed := state.printed ++ text }
  | .change text =>
      { state with
        printed := state.printed ++ text
        isDeleted := true }

/- Do edits to a line in order, with the ranges begun. -/
def applyAll
    (number : Nat)
    (isLast : Bool) :
    List (Command × Bool) → State → State × List Bool
  | [], state => (state, [])
  | (command, isOpen) :: rest, state =>
      if state.isDeleted || state.quits then
        (state, isOpen :: rest.map Prod.snd)
      else
        let (isMeant, isOpen) :=
          command.isFor number isLast isOpen state.line
        let state :=
          if isMeant != command.isNegated then
            command.action.apply number state
          else state
        let (state, others) := applyAll number isLast rest state
        (state, isOpen :: others)

def editLines
    (isQuiet : Bool)
    (commands : List Command) :
    (number : Nat) →
    (ranges : List Bool) →
    List (List UInt8) →
    List UInt8
  | _, _, [] => []
  | number, ranges, line :: rest =>
      let start : State := ⟨lineText line, [], [], false, false⟩
      let (state, ranges) :=
        applyAll number rest.isEmpty (commands.zip ranges) start
      let mark := line.drop (lineText line).length
      let shown :=
        if isQuiet || state.isDeleted then []
        else state.line ++ mark
      state.printed ++ shown ++ state.later ++
        (if state.quits then []
        else editLines isQuiet commands (number + 1) ranges rest)

end Edit

/- The edits of options, or else of the first argument. -/
def editScript
    (given : List (Char × String))
    (others : List String) : String × List String :=
  let scripts := given.filterMap fun (letter, value) =>
    if letter = 'e' then some value else none
  if scripts.isEmpty then
    (others.head?.getD "", others.drop 1)
  else (String.intercalate "\n" scripts, others)

/- Print what is read with edits in its lines. -/
def Tool.sed : Tool := fun arguments => do
  let (given, others) := options ['e'] arguments
  let (script, paths) := editScript given others
  let isExtended := hasOption given 'E' || hasOption given 'r'
  let text := script.toList
  match Edit.readScript? isExtended (text.length + 1) text with
  | none =>
      Step.report
        ("-e expression #1, char " ++ toString text.length ++
          ": unknown command")
      return 1
  | some commands =>
      let blame : Blame := fun path error =>
        "can't read " ++ path ++ ": " ++ error.description
      let status ←
        Tool.filter blame
          (fun bytes =>
            Edit.editLines (hasOption given 'n') commands 1
              (commands.map fun _ => false) (lines bytes))
          paths
      return if status = 0 then 0 else 2

end Script

end TextMate
