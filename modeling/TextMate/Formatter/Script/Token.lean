import TextMate.Formatter.Script.Word

/-
  This file defines the tokens of shell scripts: words, signs
  between commands, and redirections.

  Key definitions include:
    * `Sign`
    * `Direction`
    * `Token`
    * `Located`
    * `tokens`
-/

namespace TextMate

namespace Script

open Text (isDigit)

------------------------------------------------------------
-- Tokens
------------------------------------------------------------

/- A sign between commands. -/
inductive Sign where
  | newline
  | semicolon
  | doubleSemicolon
  | ampersand
  | both
  | either
  | pipe
  | opening
  | closing
deriving DecidableEq

def Sign.text : Sign → String
  | .newline => "newline"
  | .semicolon => "\";\""
  | .doubleSemicolon => "\";;\""
  | .ampersand => "\"&\""
  | .both => "\"&&\""
  | .either => "\"||\""
  | .pipe => "\"|\""
  | .opening => "\"(\""
  | .closing => "\")\""

/- What a redirection does with the word after it. -/
inductive Direction where
  | read
  | write
  | append
  | duplicate
deriving DecidableEq

/-
  A token of a script.  A redirection without a number is for
  the stream of its direction.  The text that is given to a
  command is read with its token.
-/
inductive Token where
  | word (word : Word)
  | sign (sign : Sign)
  | redirect (stream : Nat) (direction : Direction)
  | given (stream : Nat) (text : Word)
  | fault (fault : Fault)
  | finish
deriving DecidableEq

structure Located where
  line : Nat
  token : Token

------------------------------------------------------------
-- Signs
------------------------------------------------------------

/- The sign at the start of a text. -/
def takeSign? :
    List Char → Option (Sign × List Char)
  | ';' :: ';' :: rest => some (.doubleSemicolon, rest)
  | ';' :: rest => some (.semicolon, rest)
  | '&' :: '&' :: rest => some (.both, rest)
  | '&' :: rest => some (.ampersand, rest)
  | '|' :: '|' :: rest => some (.either, rest)
  | '|' :: rest => some (.pipe, rest)
  | '(' :: rest => some (.opening, rest)
  | ')' :: rest => some (.closing, rest)
  | _ => none

/- The direction at the start of a text, with its stream. -/
def takeDirection? :
    List Char → Option (Nat × Direction × List Char)
  | '>' :: '>' :: rest => some (1, .append, rest)
  | '>' :: '&' :: rest => some (1, .duplicate, rest)
  | '>' :: '|' :: rest => some (1, .write, rest)
  | '>' :: rest => some (1, .write, rest)
  | '<' :: '&' :: rest => some (0, .duplicate, rest)
  | '<' :: rest => some (0, .read, rest)
  | _ => none

/- The number of a stream before a redirection. -/
def takeStream
    (text : List Char) : Option Nat × List Char :=
  let digits := text.takeWhile isDigit
  let rest := text.dropWhile isDigit
  let isRedirection :=
    rest.head? = some '<' || rest.head? = some '>'
  if digits.isEmpty || !isRedirection then (none, text)
  else ((String.ofList digits).toNat?, rest)

------------------------------------------------------------
-- Given Text
------------------------------------------------------------

/- The first line of a text, and what follows its end. -/
def takeLine
    (text : List Char) : List Char × List Char :=
  (text.takeWhile (· != '\n'),
    (text.dropWhile (· != '\n')).drop 1)

/-
  The lines of a text up to one that is the mark, and what
  follows that line.  Tabs at the start of lines may be left
  out.
-/
def takeGiven
    (dropsTabs : Bool)
    (mark : List Char) :
    (fuel : Nat) →
    List Char →
    List Char × List Char
  | 0, text => ([], text)
  | _, [] => ([], [])
  | fuel + 1, c :: text =>
      let (line, rest) := takeLine (c :: text)
      let line :=
        if dropsTabs then line.dropWhile (· == '\t') else line
      if line = mark then ([], rest)
      else
        let (found, rest) := takeGiven dropsTabs mark fuel rest
        (line ++ '\n' :: found, rest)

/- A given text as it is read, and where reading goes on. -/
structure Given where
  text : Word
  lines : Nat
  rest : List Char

/- The number of lines that end in a text. -/
def lineCount
    (text : List Char) : Nat :=
  text.count '\n'

def Fault.line
    (line : Nat)
    (text : List Char) : Fault → Nat
  | .openBrace true => line
  | _ => line + lineCount text

/- The text of a word without its quotes. -/
def Word.literal
    (word : Word) : List Char :=
  word.flatMap fun part =>
    match part.fragment with
    | .text value => value
    | _ => []

/- No mark follows the sign for a given text. -/
def lacksMark
    (text : List Char) : Bool :=
  let text :=
    if text.head? = some '-' then text.drop 1 else text
  match text.dropWhile fun c => c == ' ' || c == '\t' with
  | [] => true
  | c :: _ => Context.isMeta c

/-
  Read a text that is given to a command, after its sign.  It
  starts behind the line and has expansions unless its mark is
  in quotes.
-/
def readGiven
    (text : List Char) : Except Fault Given := do
  let dropsTabs := text.head? = some '-'
  let text := if dropsTabs then text.drop 1 else text
  let start := text.dropWhile fun c => c == ' ' || c == '\t'
  let (mark, rest) ← readParts .bare (start.length + 1) start
  let (line, below) := takeLine rest
  let (body, after) :=
    takeGiven dropsTabs mark.literal (below.length + 1) below
  let word ←
    if mark.any (·.isQuoted) then
      pure [⟨.text body, true⟩]
    else Word.ofText .here body
  return ⟨word, lineCount below - lineCount after,
    line ++ '\n' :: after⟩

------------------------------------------------------------
-- Scripts
------------------------------------------------------------

/-
  The tokens of a text.  `line` is the number of its line, and
  `hidden` counts lines that were read ahead.  Reading stops at
  a fault.
-/
def tokensFrom :
    (fuel line hidden : Nat) → List Char → List Located
  | 0, line, _, _ => [⟨line, .finish⟩]
  | _, line, hidden, [] => [⟨line + hidden, .finish⟩]
  | fuel + 1, line, hidden, c :: rest =>
      if c = ' ' || c = '\t' then
        tokensFrom fuel line hidden rest
      else if c = '\\' && rest.head? = some '\n' then
        tokensFrom fuel (line + 1) hidden (rest.drop 1)
      else if c = '#' then
        tokensFrom fuel line hidden
          (rest.dropWhile (· != '\n'))
      else if c = '\n' then
        ⟨line, .sign .newline⟩ ::
          tokensFrom fuel (line + 1 + hidden) 0 rest
      else
        let (stream, text) := takeStream (c :: rest)
        match text with
        | '<' :: '<' :: text =>
            if lacksMark text then
              ⟨line, .redirect (stream.getD 0) .read⟩ ::
                tokensFrom fuel line hidden text
            else
              match readGiven text with
              | .error fault =>
                  [⟨fault.line (line + hidden) text,
                    .fault fault⟩]
              | .ok given =>
                  ⟨line, .given (stream.getD 0) given.text⟩ ::
                    tokensFrom fuel line (hidden + given.lines)
                      given.rest
        | text =>
            match takeSign? text, takeDirection? text with
            | some (sign, rest), _ =>
                ⟨line, .sign sign⟩ ::
                  tokensFrom fuel line hidden rest
            | none, some (usual, direction, rest) =>
                ⟨line,
                  .redirect (stream.getD usual) direction⟩ ::
                  tokensFrom fuel line hidden rest
            | none, none =>
                match readParts .bare (text.length + 1) text with
                | .error fault =>
                    [⟨fault.line (line + hidden) text,
                      .fault fault⟩]
                | .ok (word, rest) =>
                    let ended := lineCount text - lineCount rest
                    ⟨line, .word word⟩ ::
                      tokensFrom fuel (line + ended) hidden rest

def tokens
    (text : List Char) : List Located :=
  tokensFrom (2 * text.length + 1) 1 0 text

end Script

end TextMate
