import TextMate.Formatter.Script.Token

/-
  This file defines the commands of shell scripts and how they
  are read from tokens.

  A script is read one line of commands at a time, so that the
  commands before a fault are there to be run.

  Key definitions include:
    * `Redirection`
    * `Command`
    * `Program`
    * `readProgram`
-/

namespace TextMate

namespace Script

------------------------------------------------------------
-- Commands
------------------------------------------------------------

inductive Redirection where
  | to (stream : Nat) (direction : Direction) (target : Word)
  | given (stream : Nat) (text : Word)
deriving DecidableEq

structure Assignment where
  name : String
  value : Word
deriving DecidableEq

/-
  A command of a script.  `both` runs its second command after
  a success of the first one and `either` after a failure.  A
  loop goes on while its condition succeeds, or until then.
  Without words, `each` runs over the arguments.
-/
inductive Command where
  | simple
      (line : Nat)
      (assignments : List Assignment)
      (words : List Word)
      (redirections : List Redirection)
  | pipeline (commands : List Command)
  | negated (command : Command)
  | both (first second : Command)
  | either (first second : Command)
  | sequence (commands : List Command)
  | choice (condition yes no : Command)
  | loop (isUntil : Bool) (condition body : Command)
  | each
      (name : String)
      (words : Option (List Word))
      (body : Command)
  | select
      (word : Word)
      (cases : List (List Word × Command))
  | subshell (body : Command)
  | background (body : Command)
  | redirected
      (line : Nat)
      (body : Command)
      (redirections : List Redirection)
  | define (name : String) (body : Command)

def Command.nothing : Command := .sequence []

instance : Inhabited Command := ⟨.nothing⟩

/- The commands of a script up to a fault in its form. -/
structure Program where
  lines : List Command
  fault : Option (Nat × Fault)

------------------------------------------------------------
-- Words of the Language
------------------------------------------------------------

def endWords : List String :=
  ["then", "else", "elif", "fi", "do", "done", "esac", "\x7d"]

/- The words with a meaning at the start of a command. -/
def keywords : List String :=
  endWords ++
    ["if", "while", "until", "for", "case", "in", "\x7b", "!"]

------------------------------------------------------------
-- Tokens at Hand
------------------------------------------------------------

/- A fault with the number of its line. -/
abbrev LocatedFault := Nat × Fault

/- A step that reads commands from tokens. -/
abbrev Reader := StateT (List Located) (Except LocatedFault)

namespace Reader

/- The next token. -/
def peek : Reader Token := do
  return ((← get).head?.map Located.token).getD .finish

/- The line of the next token. -/
def line : Reader Nat := do
  return ((← get).head?.map Located.line).getD 0

def endLine : Reader Nat := do
  return (← line) +
    (if (← peek) = .sign .newline then 1 else 0)

/- Go on after the next token. -/
def skip : Reader Unit :=
  modify fun tokens => tokens.drop 1

def tokenText : Token → String
  | .finish => "end of file"
  | .sign sign => sign.text
  | .word word =>
      match word.plain? with
      | some text =>
          if keywords.contains text then "\"" ++ text ++ "\""
          else "word"
      | none => "word"
  | _ => "redirection"

/- Refuse the next token. -/
def refuse
    {α : Type}
    (expected : Option String) : Reader α := do
  match ← peek with
  | .fault fault => throw (← line, fault)
  | token =>
      throw (← endLine, .unexpected (tokenText token) expected)

/- Refuse what was read so far. -/
def fail
    {α : Type}
    (fault : Fault) : Reader α := do
  throw (← endLine, fault)

/- The next token is a word without quotes. -/
def isWord
    (text : String) : Reader Bool := do
  match ← peek with
  | .word word => return word.plain? = some text
  | _ => return false

/- Go on after a word that has to come next. -/
def expect
    (text : String) : Reader Unit := do
  if ← isWord text then skip
  else refuse (some ("\"" ++ text ++ "\""))

/- Go on after a sign if it comes next. -/
def accept
    (sign : Sign) : Reader Bool := do
  if (← peek) = .sign sign then
    skip
    return true
  else return false

/- Go on after the ends of lines. -/
def skipLines : Reader Unit :=
  modify fun tokens =>
    tokens.dropWhile fun located =>
      located.token == .sign .newline

end Reader

def endsCommands : Token → Bool
  | .finish => true
  | .sign .closing => true
  | .sign .doubleSemicolon => true
  | .word word =>
      match word.plain? with
      | some text => endWords.contains text
      | none => false
  | _ => false

------------------------------------------------------------
-- Simple Commands
------------------------------------------------------------

def Assignment.ofWord? : Word → Option Assignment
  | ⟨.text value, false⟩ :: rest =>
      let name := value.takeWhile (· != '=')
      match value.dropWhile (· != '=') with
      | '=' :: value =>
          if isName name then
            let start : Word :=
              if value.isEmpty then []
              else [⟨.text value, false⟩]
            some ⟨String.ofList name, start ++ rest⟩
          else none
      | _ => none
  | _ => none

def readRedirections :
    (fuel : Nat) → Reader (List Redirection)
  | 0 => return []
  | fuel + 1 => do
      match ← Reader.peek with
      | .given stream text =>
          Reader.skip
          return .given stream text ::
            (← readRedirections fuel)
      | .redirect stream direction =>
          Reader.skip
          match ← Reader.peek with
          | .word word =>
              Reader.skip
              return .to stream direction word ::
                (← readRedirections fuel)
          | _ => Reader.refuse none
      | _ => return []

/- The parts of a simple command, as they are collected. -/
structure Collected where
  assignments : List Assignment
  words : List Word
  redirections : List Redirection

/- Read the parts of a simple command as far as they go. -/
def collect :
    (fuel : Nat) → Collected → Reader Collected
  | 0, collected => return collected
  | fuel + 1, collected => do
      match ← Reader.peek with
      | .word word =>
          Reader.skip
          let assignment? :=
            if collected.words.isEmpty then
              Assignment.ofWord? word
            else none
          match assignment? with
          | some assignment =>
              collect fuel
                { collected with
                  assignments :=
                    collected.assignments ++ [assignment] }
          | none =>
              collect fuel
                { collected with
                  words := collected.words ++ [word] }
      | .redirect _ _ | .given _ _ =>
          let found ← readRedirections fuel
          collect fuel
            { collected with
              redirections := collected.redirections ++ found }
      | _ => return collected

------------------------------------------------------------
-- Commands
------------------------------------------------------------

def readWords : (fuel : Nat) → Reader (List Word)
  | 0 => return []
  | fuel + 1 => do
      match ← Reader.peek with
      | .word word =>
          Reader.skip
          return word :: (← readWords fuel)
      | _ => return []

/-
  Read the patterns of a case between bars.  Any token counts
  as one.
-/
def readPatterns : (fuel : Nat) → Reader (List Word)
  | 0 => return []
  | fuel + 1 => do
      let word : Word ←
        match ← Reader.peek with
        | .word word => pure word
        | .fault _ => Reader.refuse none
        | _ => pure []
      if (← Reader.peek) ≠ .finish then Reader.skip
      if ← Reader.accept .pipe then
        return word :: (← readPatterns fuel)
      else return [word]

def readLoopName : Reader String := do
  match ← Reader.peek with
  | .word word =>
      match word.plain? with
      | some name =>
          if isName name.toList then
            Reader.skip
            return name
          else Reader.fail .badLoopName
      | none => Reader.fail .badLoopName
  | .fault _ => Reader.refuse none
  | _ => Reader.fail .badLoopName

/- The words of a loop, if they are written. -/
def readEachWords
    (fuel : Nat) : Reader (Option (List Word)) := do
  Reader.skipLines
  if ← Reader.isWord "in" then
    Reader.skip
    let words ← readWords fuel
    if !(← Reader.accept .semicolon) &&
        !(← Reader.accept .newline) then
      Reader.refuse (some "\"do\"")
    return some words
  else
    let _ ← Reader.accept .semicolon
    return none

/-
  The next tokens are a word that is no assignment, and a
  parenthesis.
-/
def startsDefinition : Reader Bool := do
  match (← get).map Located.token with
  | .word word :: .sign .opening :: _ =>
      return (Assignment.ofWord? word).isNone
  | _ => return false

/- Read the name of a function and its parentheses. -/
def readDefinition
    (word : Word) : Reader String := do
  modify fun tokens => tokens.drop 2
  if !(← Reader.accept .closing) then
    Reader.refuse (some "\")\"")
  match word.plain? with
  | some name =>
      if isName name.toList then return name
      else Reader.fail .badFunctionName
  | none => Reader.fail .badFunctionName

/- Read commands, from lists down to simple ones. -/
mutual

def readList : (fuel : Nat) → Reader Command
  | 0 => Reader.refuse none
  | fuel + 1 => do
      Reader.skipLines
      if endsCommands (← Reader.peek) then return .nothing
      return .sequence (← readItems fuel true)
termination_by structural fuel => fuel

/-
  Read commands between signs.  On one line alone, they end
  with the line.
-/
def readItems : (fuel : Nat) → Bool → Reader (List Command)
  | 0, _ => Reader.refuse none
  | fuel + 1, isNested => do
      let command ← readChain fuel
      let inBackground ← Reader.accept .ampersand
      let command :=
        if inBackground then .background command else command
      let isEnded := inBackground || (← Reader.accept .semicolon)
      let lineEnded ←
        if isNested then Reader.accept .newline
        else pure false
      if isNested then Reader.skipLines
      if endsCommands (← Reader.peek) ||
          (!isNested &&
            (← Reader.peek) = .sign .newline) then
        return [command]
      else if isEnded || lineEnded then
        return command :: (← readItems fuel isNested)
      else Reader.refuse none
termination_by structural fuel => fuel

/- Read pipelines between signs of success and failure. -/
def readChain : (fuel : Nat) → Reader Command
  | 0 => Reader.refuse none
  | fuel + 1 => do readFurther fuel (← readPipeline fuel)
termination_by structural fuel => fuel

/- Read what follows a pipeline. -/
def readFurther : (fuel : Nat) → Command → Reader Command
  | 0, _ => Reader.refuse none
  | fuel + 1, first => do
      if ← Reader.accept .both then
        Reader.skipLines
        readFurther fuel (.both first (← readPipeline fuel))
      else if ← Reader.accept .either then
        Reader.skipLines
        readFurther fuel (.either first (← readPipeline fuel))
      else return first
termination_by structural fuel => fuel

def readPipeline : (fuel : Nat) → Reader Command
  | 0 => Reader.refuse none
  | fuel + 1 => do
      if ← Reader.isWord "!" then
        Reader.skip
        return .negated (← readPipeline fuel)
      match ← readPiped fuel with
      | [command] => return command
      | commands => return .pipeline commands
termination_by structural fuel => fuel

def readPiped : (fuel : Nat) → Reader (List Command)
  | 0 => Reader.refuse none
  | fuel + 1 => do
      let command ← readCommand fuel
      if ← Reader.accept .pipe then
        Reader.skipLines
        return command :: (← readPiped fuel)
      else return [command]
termination_by structural fuel => fuel

def readCommand : (fuel : Nat) → Reader Command
  | 0 => Reader.refuse none
  | fuel + 1 => do
      let line ← Reader.line
      match ← readCompound? fuel with
      | some command =>
          let redirections ← readRedirections fuel
          if redirections.isEmpty then return command
          else return .redirected line command redirections
      | none =>
          let simple ←
            collect (2 * (← get).length + 1) ⟨[], [], []⟩
          if simple.assignments.isEmpty &&
              simple.words.isEmpty &&
              simple.redirections.isEmpty then
            Reader.refuse none
          return .simple line simple.assignments simple.words
            simple.redirections
termination_by structural fuel => fuel

def readCompound? : (fuel : Nat) → Reader (Option Command)
  | 0 => Reader.refuse none
  | fuel + 1 => do
      match ← Reader.peek with
      | .sign .opening =>
          Reader.skip
          let body ← readList fuel
          if !(← Reader.accept .closing) then
            Reader.refuse (some "\")\"")
          return some (.subshell body)
      | .word word =>
          let isKeyword :=
            word.plain?.any keywords.contains
          if !isKeyword && (← startsDefinition) then
            let name ← readDefinition word
            Reader.skipLines
            return some (.define name (← readCommand fuel))
          match word.plain? with
          | some "if" =>
              Reader.skip
              return some (← readChoice fuel)
          | some "while" =>
              Reader.skip
              return some (← readLoop fuel false)
          | some "until" =>
              Reader.skip
              return some (← readLoop fuel true)
          | some "for" =>
              Reader.skip
              let name ← readLoopName
              let words ← readEachWords ((← get).length + 1)
              return some (.each name words (← readBody fuel))
          | some "case" =>
              Reader.skip
              match ← Reader.peek with
              | .word word =>
                  Reader.skip
                  Reader.skipLines
                  Reader.expect "in"
                  Reader.skipLines
                  return some (.select word (← readCases fuel))
              | _ => Reader.refuse (some "word")
          | some "\x7b" =>
              Reader.skip
              let body ← readList fuel
              Reader.expect "\x7d"
              return some body
          | some text =>
              if endWords.contains text then Reader.refuse none
              else return none
          | none => return none
      | _ => return none
termination_by structural fuel => fuel

def readChoice : (fuel : Nat) → Reader Command
  | 0 => Reader.refuse none
  | fuel + 1 => do
      let condition ← readList fuel
      Reader.expect "then"
      let yes ← readList fuel
      if ← Reader.isWord "elif" then
        Reader.skip
        return .choice condition yes (← readChoice fuel)
      let no ←
        if ← Reader.isWord "else" then
          Reader.skip
          readList fuel
        else pure .nothing
      Reader.expect "fi"
      return .choice condition yes no
termination_by structural fuel => fuel

def readLoop : (fuel : Nat) → Bool → Reader Command
  | 0, _ => Reader.refuse none
  | fuel + 1, isUntil => do
      let condition ← readList fuel
      return .loop isUntil condition (← readBody fuel)
termination_by structural fuel => fuel

def readBody : (fuel : Nat) → Reader Command
  | 0 => Reader.refuse none
  | fuel + 1 => do
      Reader.skipLines
      Reader.expect "do"
      let body ← readList fuel
      Reader.expect "done"
      return body
termination_by structural fuel => fuel

def readCases :
    (fuel : Nat) → Reader (List (List Word × Command))
  | 0 => Reader.refuse none
  | fuel + 1 => do
      Reader.skipLines
      if ← Reader.isWord "esac" then
        Reader.skip
        return []
      let _ ← Reader.accept .opening
      let patterns ← readPatterns ((← get).length + 1)
      if !(← Reader.accept .closing) then
        Reader.refuse (some "\")\"")
      let body ← readList fuel
      if ← Reader.accept .doubleSemicolon then
        return (patterns, body) :: (← readCases fuel)
      else if ← Reader.isWord "esac" then
        Reader.skip
        return [(patterns, body)]
      else Reader.refuse (some "\";;\"")
termination_by structural fuel => fuel

end

------------------------------------------------------------
-- Programs
------------------------------------------------------------

/-
  Read a line of commands.  A fault in it leaves nothing of
  the line.
-/
def readLine
    (fuel : Nat) : Reader Command := do
  let commands ← readItems fuel false
  match ← Reader.peek with
  | .finish => return .sequence commands
  | .sign .newline =>
      Reader.skip
      return .sequence commands
  | _ => Reader.refuse none

def readLines
    (limit : Nat) :
    (fuel : Nat) → List Located → Program
  | 0, _ => ⟨[], none⟩
  | fuel + 1, tokens =>
      let tokens := tokens.dropWhile fun located =>
        located.token == .sign .newline
      if tokens.all fun located => located.token == .finish
      then ⟨[], none⟩
      else
        match (readLine limit).run tokens with
        | .error fault => ⟨[], some fault⟩
        | .ok (command, rest) =>
            let program := readLines limit fuel rest
            { program with lines := command :: program.lines }

def readProgram
    (text : List Char) : Program :=
  let tokens := tokens text
  readLines (8 * tokens.length + 16) (tokens.length + 1) tokens

end Script

end TextMate
