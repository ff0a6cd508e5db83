import TextMate.Text.Word

/-
  This file defines the words of shell scripts: text with
  quotes, and expansions that are replaced when a script runs.

  The text of a nested script, of a number and of an operand
  is kept as it is written and read when it is needed.

  Key definitions include:
    * `Fault`
    * `Change`
    * `Fragment`
    * `Word`
    * `takeNested`
    * `readParts`
-/

namespace TextMate

namespace Script

open Text (isAlphanumeric isDigit)

------------------------------------------------------------
-- Words
------------------------------------------------------------

/-
  A fault in the form of a script.  A brace may be missing at
  once, when the line ends after the name of a parameter.
-/
inductive Fault where
  | openQuote
  | openBackQuote
  | openScript
  | openNumber
  | openBrace (isAtOnce : Bool)
  | badLoopName
  | badFunctionName
  | unexpected (found : String) (expected : Option String)
deriving DecidableEq

/- What is done when a parameter has no value. -/
inductive Fallback where
  | use
  | assign
  | fail
  | replace
deriving DecidableEq

/-
  How the value of a parameter is changed.  A fallback may
  count an empty value as none.  A trim takes a pattern away
  from one end, as much as possible when it is greedy.  A
  change that is written wrong is invalid.
-/
inductive Change where
  | invalid
  | keep
  | length
  | fallback
      (kind : Fallback)
      (countsEmpty : Bool)
      (operand : List Char)
  | trim
      (atStart : Bool)
      (isGreedy : Bool)
      (operand : List Char)
deriving DecidableEq

/-
  A part of a word: text, a parameter, the output of a script
  or the value of an expression.
-/
inductive Fragment where
  | text (value : List Char)
  | parameter (name : String) (change : Change)
  | output (script : List Char)
  | number (expression : List Char)
deriving DecidableEq

/- A part of a word and whether it is in quotes. -/
structure Part where
  fragment : Fragment
  isQuoted : Bool
deriving DecidableEq

/- A word is the list of its parts. -/
abbrev Word := List Part

/- A word without quotes and expansions. -/
def Word.plain
    (text : String) : Word :=
  [⟨.text text.toList, false⟩]

/- The text of a word, if no part of it is in quotes. -/
def Word.plain? : Word → Option String
  | [⟨.text value, false⟩] => some (String.ofList value)
  | _ => none

def Word.addText
    (isQuoted : Bool)
    (c : Char) : Word → Word
  | ⟨.text value, quoted⟩ :: rest =>
      if quoted = isQuoted then
        ⟨.text (c :: value), isQuoted⟩ :: rest
      else
        ⟨.text [c], isQuoted⟩ :: ⟨.text value, quoted⟩ :: rest
  | word => ⟨.text [c], isQuoted⟩ :: word

------------------------------------------------------------
-- Nested Text
------------------------------------------------------------

/- The parameters whose names are single characters. -/
def isSpecial
    (c : Char) : Bool :=
  "@*#?$!-".toList.contains c

def isNameChar
    (c : Char) : Bool :=
  isAlphanumeric c || c == '_'

/- The name of a parameter at the start of a text. -/
def takeParameter
    (text : List Char) : List Char × List Char :=
  match text with
  | c :: rest =>
      if isSpecial c then ([c], rest)
      else if isDigit c then
        (text.takeWhile isDigit, text.dropWhile isDigit)
      else (text.takeWhile isNameChar, text.dropWhile isNameChar)
  | [] => ([], [])

/-
  A pattern that is taken away from a parameter follows its
  name.  Its own quotes count even between double quotes.
-/
def hasTrim
    (text : List Char) : Bool :=
  match (takeParameter text).2 with
  | '#' :: _ | '%' :: _ => true
  | _ => false

/- Put a character in front of the first of two texts. -/
def addFirst
    (c : Char)
    (split : List Char × List Char) : List Char × List Char :=
  (c :: split.1, split.2)

/-
  A mark that closes a nested text.  In a text that is quoted
  single quotes are ordinary.
-/
structure Closing where
  mark : Char
  isQuoted : Bool

/-
  Split a text where its nested marks are closed.  The marks
  that are to come are given, the next one first.  None when
  one of them is missing.
-/
def takeNested :
    (marks : List Closing) →
    List Char →
    Option (List Char × List Char)
  | [], text => some ([], text)
  | _ :: _, [] => none
  | closing :: marks, c :: rest =>
      let mark := closing.mark
      if c = mark then
        if marks.isEmpty then some ([], rest)
        else (takeNested marks rest).map (addFirst c)
      else
        let further (inner : List (Char × Bool)) :=
          (takeNested
            (inner.map (fun (mark, quoted) => ⟨mark, quoted⟩) ++
              closing :: marks) rest).map (addFirst c)
        if mark = '\x27' then further []
        else if c = '\\' then
          match rest with
          | [] => none
          | next :: rest =>
              (takeNested (closing :: marks) rest).map
                (addFirst c ∘ addFirst next)
        else if mark = '\x60' then further []
        else if c = '$' && rest.head? = some '(' then
          further [('(', false), (')', false)]
        else if c = '$' && rest.head? = some '{' then
          let isQuoted :=
            closing.isQuoted && !hasTrim (rest.drop 1)
          further [('{', false), ('}', isQuoted)]
        else if c = '\x60' || c = '"' then
          further [(c, true)]
        else if c = '\x27' && !closing.isQuoted then
          further [(c, true)]
        else if c = '(' && mark = ')' then
          further [(')', false)]
        else further []

/- Split a text where a mark closes it, or fail. -/
def takeClosed
    (mark : Char)
    (isQuoted : Bool)
    (fault : Fault)
    (text : List Char) :
    Except Fault (List Char × List Char) :=
  match takeNested [⟨mark, isQuoted⟩] text with
  | some split => .ok split
  | none => .error fault

/-
  Split an expression where two parentheses in a row close it.
  A single one is part of it.
-/
def takeExpression :
    (fuel : Nat) →
    List Char →
    Except Fault (List Char × List Char)
  | 0, _ => .error .openNumber
  | fuel + 1, text => do
      match ← takeClosed ')' false .openNumber text with
      | (inner, ')' :: rest) => return (inner, rest)
      | (inner, rest) =>
          let (more, rest) ← takeExpression fuel rest
          return (inner ++ ')' :: more, rest)

------------------------------------------------------------
-- Expansions
------------------------------------------------------------

/- The text is a name, which starts with no digit. -/
def isName
    (text : List Char) : Bool :=
  !text.isEmpty && text.all isNameChar &&
    !(text.head?.any isDigit)

def Fallback.ofSign? : Char → Option Fallback
  | '-' => some .use
  | '=' => some .assign
  | '?' => some .fail
  | '+' => some .replace
  | _ => none

/- The change that is written after the name of a parameter. -/
def readChange : List Char → Change
  | [] => .keep
  | '#' :: '#' :: rest => .trim true true rest
  | '#' :: rest => .trim true false rest
  | '%' :: '%' :: rest => .trim false true rest
  | '%' :: rest => .trim false false rest
  | ':' :: sign :: rest =>
      match Fallback.ofSign? sign with
      | some kind => .fallback kind true rest
      | none => .invalid
  | sign :: rest =>
      match Fallback.ofSign? sign with
      | some kind => .fallback kind false rest
      | none => .invalid

def readBraced
    (text : List Char) : Fragment :=
  match text with
  | '#' :: c :: rest =>
      let (name, rest) := takeParameter (c :: rest)
      if name.isEmpty || !rest.isEmpty then
        .parameter "#" (readChange (c :: rest))
      else .parameter (String.ofList name) .length
  | text =>
      let (name, rest) := takeParameter text
      .parameter (String.ofList name)
        (if name.isEmpty then .invalid else readChange rest)

/-
  Split a parameter where its brace is closed.  Outside quotes
  the line may not end right after its name.
-/
def takeBraced
    (isQuoted : Bool)
    (text : List Char) :
    Except Fault (List Char × List Char) :=
  if isQuoted then
    takeClosed '}' (!hasTrim text) .openQuote text
  else
    match (takeParameter text).2 with
    | [] => .error (.openBrace true)
    | '\n' :: _ => .error (.openBrace true)
    | _ => takeClosed '}' false (.openBrace false) text

/-
  Read an expansion after its dollar sign.  None when the sign
  stands for itself.
-/
def readExpansion?
    (isQuoted : Bool) :
    List Char → Except Fault (Option (Fragment × List Char))
  | [] => .ok none
  | '(' :: '(' :: rest => do
      let (inner, rest) ←
        takeExpression (rest.length + 1) rest
      return some (.number inner, rest)
  | '(' :: rest => do
      let (inner, rest) ← takeClosed ')' false .openScript rest
      return some (.output inner, rest)
  | '{' :: rest => do
      let (inner, rest) ← takeBraced isQuoted rest
      return some (readBraced inner, rest)
  | c :: rest =>
      let found (name rest : List Char) :
          Option (Fragment × List Char) :=
        some (.parameter (String.ofList name) .keep, rest)
      if isSpecial c || isDigit c then .ok (found [c] rest)
      else if isNameChar c then
        let name := (c :: rest).takeWhile isNameChar
        .ok (found name ((c :: rest).dropWhile isNameChar))
      else .ok none

/- The script between back quotes, without its escapes. -/
def unquoteScript : List Char → List Char
  | '\\' :: c :: rest =>
      if c = '\\' || c = '$' || c = '\x60' then
        c :: unquoteScript rest
      else '\\' :: c :: unquoteScript rest
  | c :: rest => c :: unquoteScript rest
  | [] => []

------------------------------------------------------------
-- Reading
------------------------------------------------------------

/-
  Where parts of a word are read: outside quotes, in double
  quotes, in a text that is given to a command, or in an
  operand, which may stand in quotes itself.
-/
inductive Context where
  | bare
  | double
  | here
  | operand
  | quotedOperand
deriving DecidableEq

namespace Context

/- Parts that are read there are in quotes. -/
def isQuoted : Context → Bool
  | .double | .here | .quotedOperand => true
  | _ => false

/- The characters at which words end. -/
def isMeta
    (c : Char) : Bool :=
  " \t\n;&|<>()".toList.contains c

/- Parts end before a character. -/
def stopsAt
    (context : Context)
    (c : Char) : Bool :=
  match context with
  | .bare => isMeta c
  | .double => c == '"'
  | .here | .operand | .quotedOperand => false

/- A backslash makes the character ordinary. -/
def protects
    (context : Context)
    (c : Char) : Bool :=
  match context with
  | .bare | .operand => true
  | .double => "$\x60\"\\".toList.contains c
  | .here => "$\x60\\".toList.contains c
  | .quotedOperand => "$\x60\"\\\x7d".toList.contains c

end Context

def readParts
    (context : Context) :
    (fuel : Nat) →
    List Char →
    Except Fault (Word × List Char)
  | 0, _ => .error .openQuote
  | _, [] =>
      if context = .double then .error .openQuote
      else .ok ([], [])
  | fuel + 1, c :: rest =>
      let isQuoted := context.isQuoted
      let after
          (part : Part)
          (rest : List Char) : Except Fault (Word × List Char) :=
        (readParts context fuel rest).map fun (word, rest) =>
          (part :: word, rest)
      let plain
          (c : Char)
          (isQuoted : Bool)
          (rest : List Char) : Except Fault (Word × List Char) :=
        (readParts context fuel rest).map fun (word, rest) =>
          (Word.addText isQuoted c word, rest)
      if context.stopsAt c then .ok ([], c :: rest)
      else if c = '\\' then
        match rest with
        | [] => plain c isQuoted []
        | '\n' :: rest => readParts context fuel rest
        | next :: rest =>
            if context.protects next then plain next true rest
            else plain c isQuoted (next :: rest)
      else if c = '\x27' && !isQuoted then do
        let (inner, rest) ←
          takeClosed '\x27' true .openQuote rest
        after ⟨.text inner, true⟩ rest
      else if c = '"' && context = .quotedOperand then
        readParts context fuel rest
      else if c = '"' && !isQuoted then do
        let (inner, rest) ← readParts .double fuel rest
        let (word, rest) ←
          readParts context fuel (rest.drop 1)
        let empty : Word := [⟨.text [], true⟩]
        return ((if inner.isEmpty then empty else inner) ++ word,
          rest)
      else if c = '\x60' then do
        let (inner, rest) ←
          takeClosed '\x60' true .openBackQuote rest
        after ⟨.output (unquoteScript inner), isQuoted⟩ rest
      else if c = '$' then do
        match ← readExpansion? isQuoted rest with
        | some (fragment, rest) =>
            after ⟨fragment, isQuoted⟩ rest
        | none => plain c isQuoted rest
      else plain c isQuoted rest

/- Read the parts of a text to its end. -/
def Word.ofText
    (context : Context)
    (text : List Char) : Except Fault Word :=
  (readParts context (text.length + 1) text).map Prod.fst

end Script

end TextMate
