import TextMate.Oniguruma.Escape
import TextMate.Oniguruma.Property

/-
  This file defines which character classes are accepted.

  A class is a row of values, ranges, named sets and nested
  classes, with `&&` between rows.  What stood last decides
  how a hyphen is read.

  Key definitions include:
    * `ClassToken`
    * `readClassTokens`
    * `Slot`
    * `readClassBody`
    * `readClass`
-/

namespace TextMate

namespace Oniguruma

------------------------------------------------------------
-- Tokens
------------------------------------------------------------

/-
  A token inside a class.  `posix` opens a bracket such as
  `[:alpha:]`, and `set` is any named set of characters.  A
  code point may stand in a list between braces.
-/
inductive ClassToken where
  | finish
  | close
  | hyphen
  | bracket
  | conjunction
  | posix
  | char (c : Char) (isEscaped : Bool)
  | code (value : Nat) (isListed : Bool)
  | set
  | property
  | byte (value : Nat) (isHex : Bool)
deriving DecidableEq

/- A row of tokens, and what follows them. -/
structure ClassTokens where
  tokens : List ClassToken
  rest : List Char

/- A single token, and what follows it. -/
def ClassTokens.one
    (token : ClassToken)
    (rest : List Char) : ClassTokens :=
  ⟨[token], rest⟩

/- A letter, of any script. -/
def isLetter
    (c : Char) : Bool :=
  Text.isWord c && !Text.isDigit c && c != '_'

/-
  The text after an opening mark is a POSIX bracket: letters,
  perhaps after a circumflex, and the closing mark.  Without
  any of them it is not.
-/
def startsPosix
    (text : List Char) : Bool :=
  let name :=
    match text with
    | '^' :: rest => rest
    | text => text
  text.head? != some ':' &&
    [':', ']'].isPrefixOf (name.dropWhile isLetter)

def isSetLetter
    (c : Char) : Bool :=
  "wWdDsShH".toList.contains c

def CodeItem.classToken
    (isListed : Bool) : CodeItem → ClassToken
  | .code value => .code value isListed
  | .range => .hyphen

/- Read code points between braces, or else a plain letter. -/
def readClassCodes
    (base : CodeBase)
    (letter : Char)
    (endsRange : Bool)
    (text : List Char) :
    Except Refusal ClassTokens :=
  (readBracedCodes? base true endsRange
    (text.drop 1)).map fun codes? =>
    match codes? with
    | some codes =>
        ⟨codes.items.map (CodeItem.classToken codes.isList),
          codes.rest⟩
    | none => .one (.char letter true) text

/- Read an octal number as a raw byte. -/
def readClassOctal
    (text : List Char) : ClassTokens :=
  let numeral := takeOctal 3 text
  .one (.byte (octalByte numeral.value) false) numeral.rest

/-
  Read what follows a backslash in a class.  `endsRange` says
  that it is to end a range.
-/
def readClassEscape
    (endsRange : Bool) :
    List Char → Except Refusal ClassTokens
  | [] => .error .endAtEscape
  | c :: rest =>
      if isSetLetter c then .ok (.one .set rest)
      else if c = 'p' || c = 'P' then
        match rest with
        | '{' :: '^' :: rest => .ok (.one .property rest)
        | '{' :: rest => .ok (.one .property rest)
        | rest => .ok (.one (.char c true) rest)
      else if c = 'x' then
        match rest with
        | [] => .ok (.one (.char c true) [])
        | '{' :: rest =>
            readClassCodes .hexadecimal c endsRange
              ('{' :: rest)
        | rest =>
            let numeral := takeHex 2 rest
            .ok (.one (.byte numeral.value true) numeral.rest)
      else if c = 'u' then
        if rest.isEmpty then .ok (.one (.char c true) [])
        else
          let numeral := takeHex 4 rest
          if numeral.count < 4 then .error .invalidCodePoint
          else
            .ok (.one (.code numeral.value false) numeral.rest)
      else if c = 'o' then
        match rest with
        | '{' :: rest =>
            readClassCodes .octal c endsRange ('{' :: rest)
        | rest => .ok (.one (.char c true) rest)
      else if (octalValue? c).isSome then
        .ok (readClassOctal (c :: rest))
      else
        (readEscapedValue (c :: rest)).map
          fun (code, after) =>
            if code = c.toNat then .one (.char c true) after
            else .one (.code code false) after

/-
  Read the next tokens of a class.  `endsRange` says that they
  are to end a range.
-/
def readClassTokens
    (endsRange : Bool) :
    List Char → Except Refusal ClassTokens
  | [] => .ok (.one .finish [])
  | ']' :: rest => .ok (.one .close rest)
  | '-' :: rest => .ok (.one .hyphen rest)
  | '\\' :: rest => readClassEscape endsRange rest
  | '[' :: ':' :: rest =>
      if startsPosix rest then .ok (.one .posix rest)
      else .ok (.one .bracket (':' :: rest))
  | '[' :: rest => .ok (.one .bracket rest)
  | '&' :: '&' :: rest => .ok (.one .conjunction rest)
  | c :: rest => .ok (.one (.char c false) rest)

------------------------------------------------------------
-- POSIX Brackets
------------------------------------------------------------

def posixBracketNames : List (List Char) :=
  ["alnum", "alpha", "blank", "cntrl", "digit", "graph",
    "lower", "print", "punct", "space", "upper", "xdigit",
    "ascii", "word"].map String.toList

def readPosix
    (text : List Char) : Except Refusal (List Char) :=
  let text :=
    match text with
    | '^' :: rest => rest
    | text => text
  if posixBracketNames.contains (text.takeWhile isLetter) then
    .ok ((text.dropWhile isLetter).drop 2)
  else .error .invalidPosixClass

------------------------------------------------------------
-- Values and Ranges
------------------------------------------------------------

/-
  What stands last in a class: nothing, a single value, a set,
  a value with a hyphen, or something complete.
-/
inductive Slot where
  | start
  | value (code : Nat)
  | set
  | range (low : Nat)
  | complete
deriving DecidableEq

namespace Slot

def addValue
    (slot : Slot)
    (code : Nat) : Except Refusal Slot :=
  match slot with
  | .range low =>
      if code < low then .error .emptyRange
      else .ok .complete
  | _ => .ok (.value code)

/-
  Add a value given by its code point.  The end of a range
  need not be a valid one.
-/
def addCode
    (slot : Slot)
    (code : Nat) : Except Refusal Slot :=
  match isCodePoint code, slot with
  | true, slot => slot.addValue code
  | false, .range low => Slot.addValue (.range low) code
  | false, _ => .error .invalidCodePoint

def addSet : Slot → Except Refusal Slot
  | .range _ => .error .classEndsRange
  | _ => .ok .set

end Slot

------------------------------------------------------------
-- Classes
------------------------------------------------------------

/- Tokens that were read ahead, and the text after them. -/
structure ClassInput where
  ahead : List ClassToken
  rest : List Char

/-
  Take the next token.  `endsRange` says that it is to end a
  range.
-/
def ClassInput.next
    (endsRange : Bool)
    (input : ClassInput) :
    Except Refusal (ClassToken × ClassInput) :=
  match input.ahead with
  | token :: ahead => .ok (token, ⟨ahead, input.rest⟩)
  | [] =>
      (readClassTokens endsRange input.rest).map fun read =>
        match read.tokens with
        | token :: ahead => (token, ⟨ahead, read.rest⟩)
        | [] => (.finish, ⟨[], read.rest⟩)

/-
  Raw bytes in a row, each with the input after it.  A list of
  code points may have ended the row.
-/
structure ByteRow where
  bytes : List (Nat × ClassInput)
  meetsList : Bool

/- Take raw bytes written in one base, up to a number of them. -/
def takeBytes
    (isHex : Bool) :
    (limit : Nat) →
    ClassInput →
    Except Refusal ByteRow
  | 0, _ => .ok ⟨[], false⟩
  | limit + 1, input => do
      match ← input.next false with
      | (.byte value hex, after) =>
          if hex = isHex then
            let row ← takeBytes isHex limit after
            return { row with
              bytes := (value, after) :: row.bytes }
          else return ⟨[], false⟩
      | (.code _ isListed, _) => return ⟨[], isListed⟩
      | _ => return ⟨[], false⟩

/- The greatest number of bytes in a character. -/
def maxSequence : Nat := 4

/-
  The value of a row of bytes, and the input after those that
  it takes.  `isStuck` says that nothing can be read there.
-/
structure ByteValue where
  code : Nat
  isStuck : Bool
  input : ClassInput

/-
  Read the bytes of a character after its first byte.  Bytes
  beyond the character are given back.  When the row ended at a
  list of code points, that list was entered and is not left
  again: after it no byte that was given back can be read.
-/
def readByteValue
    (first : Nat)
    (isHex : Bool)
    (input : ClassInput) :
    Except Refusal ByteValue := do
  let row ← takeBytes isHex (maxSequence - 1) input
  let needed := sequenceLength first
  let count := row.bytes.length + 1
  if count < needed then throw .incompleteBytes
  let isStuck := needed < count && row.meetsList
  if needed = 1 then return ⟨first, isStuck, input⟩
  let used := row.bytes.take (needed - 1)
  let bytes := first :: used.map Prod.fst
  if isStuck || !areValidBytes bytes then
    throw .invalidCodePoint
  let after := (used.getLast?.map Prod.snd).getD input
  return ⟨bytesCode bytes, false, after⟩

def ClassToken.endsRow : ClassToken → Bool
  | .close | .conjunction => true
  | _ => false

def hyphenCode : Nat := '-'.toNat

/- The deepest nesting of a pattern that is accepted. -/
def maxDepth : Nat := 4096

/-
  Read the rest of a class, given what stands last in it, and
  return the text after the class.
-/
mutual

def readClassBody :
    (fuel depth : Nat) →
    Slot →
    ClassInput →
    Except Refusal (List Char)
  | 0, _, _, _ => .error .unclosedClass
  | fuel + 1, depth, slot, input => do
      let (token, input) ← input.next false
      match token with
      | .finish => throw .unclosedClass
      | .close => return input.rest
      | .char c _ =>
          readClassBody fuel depth (← slot.addCode c.toNat)
            input
      | .code value _ =>
          readClassBody fuel depth (← slot.addCode value) input
      | .byte value isHex =>
          let read ← readByteValue value isHex input
          let slot ← slot.addValue read.code
          if read.isStuck then throw .invalidCodePoint
          readClassBody fuel depth slot read.input
      | .set =>
          readClassBody fuel depth (← slot.addSet) input
      | .property =>
          let rest ← readProperty input.rest
          readClassBody fuel depth (← slot.addSet) ⟨[], rest⟩
      | .posix =>
          let rest ← readPosix input.rest
          readClassBody fuel depth (← slot.addSet) ⟨[], rest⟩
      | .bracket =>
          let rest ← readNestedClass fuel depth input.rest
          readClassBody fuel depth .complete ⟨[], rest⟩
      | .conjunction => readClassBody fuel depth .start input
      | .hyphen =>
          match slot with
          | .range _ =>
              readClassBody fuel depth
                (← slot.addValue hyphenCode) input
          | .value low =>
              let (next, after) ← input.next true
              let input :=
                { after with ahead := next :: after.ahead }
              if next.endsRow then
                readClassBody fuel depth
                  (← slot.addValue hyphenCode) input
              else
                readClassBody fuel depth (.range low) input
          | .set =>
              let (next, after) ← input.next true
              let input :=
                { after with ahead := next :: after.ahead }
              if next.endsRow then
                readClassBody fuel depth
                  (← slot.addValue hyphenCode) input
              else throw .unmatchedRange
          | _ =>
              let (next, after) ← input.next false
              let input :=
                { after with ahead := next :: after.ahead }
              readClassBody fuel depth
                (← slot.addValue hyphenCode) input

/-
  Read a class after its opening bracket.  A bracket that
  closes it at once is a value when another one follows.
-/
def readNestedClass :
    (fuel depth : Nat) →
    List Char →
    Except Refusal (List Char)
  | 0, _, _ => .error .unclosedClass
  | fuel + 1, depth, text => do
      if maxDepth ≤ depth then throw .nestedTooDeep
      let (first, input) ← ClassInput.next false ⟨[], text⟩
      let (first, input) ←
        if first = .char '^' false then input.next false
        else pure (first, input)
      if first = .close then
        if !input.rest.contains ']' then throw .emptyClass
        readClassBody fuel (depth + 1) (.value ']'.toNat) input
      else
        readClassBody fuel (depth + 1) .start
          { input with ahead := first :: input.ahead }

end

def readClass
    (depth : Nat)
    (text : List Char) : Except Refusal (List Char) :=
  readNestedClass (3 * text.length + 4) depth text

end Oniguruma

end TextMate
