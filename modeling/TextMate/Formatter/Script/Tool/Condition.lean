import TextMate.Formatter.Script.Tool.Print

/-
  This file defines the command that tests a condition on
  texts, numbers and files.

  Key definitions include:
    * `Condition.unary?`
    * `Condition.binary?`
    * `Condition.Term`
    * `Condition.readAny`
    * `Tool.test`
-/

namespace TextMate

namespace Script

namespace Condition

/- The value of a number, which may have a sign. -/
def number
    (text : String) : Except String Int :=
  let digits :=
    match text.toList with
    | '+' :: rest => rest
    | text => text
  match (String.ofList digits).toInt? with
  | some value => .ok value
  | none => .error ("Illegal number: " ++ text)

/- The path leads to an entry. -/
def exists?
    (disk : Disk)
    (path : String) : Bool :=
  match disk.find path with
  | .ok _ => true
  | .error _ => false

/- The path leads to a file that has contents. -/
def hasContents
    (disk : Disk)
    (path : String) : Bool :=
  match disk.find path with
  | .ok (.file contents _) => contents != ""
  | .ok .folder => true
  | .error _ => false

/- The path leads to a program or a folder. -/
def canRun
    (disk : Disk)
    (path : String) : Bool :=
  match disk.find path with
  | .ok (.file _ isExecutable) => isExecutable
  | .ok .folder => true
  | .error _ => false

def unary?
    (disk : Disk)
    (sign : String) : Option (String → Bool) :=
  match sign with
  | "-n" => some (· != "")
  | "-z" => some (· == "")
  | "-e" | "-r" | "-w" => some (exists? disk)
  | "-f" => some disk.isFile
  | "-d" => some disk.isFolder
  | "-s" => some (hasContents disk)
  | "-x" => some (canRun disk)
  | "-O" | "-G" => some (exists? disk)
  | "-t" | "-L" | "-h" | "-p" | "-b" | "-c" | "-u" | "-g"
  | "-k" | "-S" => some fun _ => false
  | _ => none

def onNumbers
    (holds : Int → Int → Bool)
    (first second : String) : Except String Bool := do
  return holds (← number first) (← number second)

/- Two paths lead to the same entry. -/
def areSame
    (disk : Disk)
    (first second : String) : Bool :=
  match disk.resolve first, disk.resolve second with
  | .ok a, .ok b => a == b && exists? disk first
  | _, _ => false

/- A condition on two texts. -/
def binary?
    (disk : Disk)
    (sign : String) :
    Option (String → String → Except String Bool) :=
  match sign with
  | "=" => some fun a b => .ok (a == b)
  | "!=" => some fun a b => .ok (a != b)
  | "<" => some fun a b => .ok (decide (a < b))
  | ">" => some fun a b => .ok (decide (b < a))
  | "-eq" => some (onNumbers fun a b => a == b)
  | "-ne" => some (onNumbers fun a b => a != b)
  | "-lt" => some (onNumbers fun a b => decide (a < b))
  | "-le" => some (onNumbers fun a b => decide (a ≤ b))
  | "-gt" => some (onNumbers fun a b => decide (b < a))
  | "-ge" => some (onNumbers fun a b => decide (b ≤ a))
  | "-ef" => some fun a b => .ok (areSame disk a b)
  | "-nt" | "-ot" => some fun _ _ => .ok false
  | _ => none

------------------------------------------------------------
-- Terms
------------------------------------------------------------

/-
  What an argument is.  A sign for a condition on one text is
  an operand when no text follows, or a sign between texts.
-/
inductive Term where
  | finish
  | operand
  | unary
  | binary
  | negation
  | both
  | either
  | opening
  | closing
deriving DecidableEq

/- What the first of some arguments is. -/
def Term.ofTexts
    (disk : Disk)
    (texts : List String) : Term :=
  match texts with
  | [] => .finish
  | "!" :: _ => .negation
  | "-a" :: _ => .both
  | "-o" :: _ => .either
  | ")" :: _ => .closing
  | "(" :: rest => if rest.isEmpty then .operand else .opening
  | text :: rest =>
      if (binary? disk text).isSome then .binary
      else if (unary? disk text).isNone then .operand
      else
        match rest with
        | [] => .operand
        | [_] => .unary
        | sign :: _ =>
            if (binary? disk sign).isSome then .operand
            else .unary

------------------------------------------------------------
-- Reading
------------------------------------------------------------

/-
  Read a condition.  What is left starts with the last argument
  of the condition.
-/
mutual

/- Read conditions of which one has to hold. -/
def readAny
    (disk : Disk) :
    (fuel : Nat) →
    Term →
    List String →
    Except String (Bool × List String)
  | 0, _, _ => .error "too many arguments"
  | fuel + 1, term, texts => do
      let (first, last) ← readAll disk fuel term texts
      if Term.ofTexts disk (last.drop 1) = .either then
        let texts := last.drop 2
        let (second, last) ←
          readAny disk fuel (Term.ofTexts disk texts) texts
        return (first || second, last)
      else return (first, last)
termination_by structural fuel => fuel

/- Read conditions that all have to hold. -/
def readAll
    (disk : Disk) :
    (fuel : Nat) →
    Term →
    List String →
    Except String (Bool × List String)
  | 0, _, _ => .error "too many arguments"
  | fuel + 1, term, texts => do
      let (first, last) ← readOne disk fuel term texts
      if Term.ofTexts disk (last.drop 1) = .both then
        let texts := last.drop 2
        let (second, last) ←
          readAll disk fuel (Term.ofTexts disk texts) texts
        return (first && second, last)
      else return (first, last)
termination_by structural fuel => fuel

def readOne
    (disk : Disk) :
    (fuel : Nat) →
    Term →
    List String →
    Except String (Bool × List String)
  | 0, _, _ => .error "too many arguments"
  | fuel + 1, term, texts => do
      if term = .negation then
        let next := Term.ofTexts disk (texts.drop 1)
        let (truth, last) ←
          readOne disk fuel next
            (if next = .finish then texts else texts.drop 1)
        return (!truth, last)
      else readSingle disk fuel term texts
termination_by structural fuel => fuel

def readSingle
    (disk : Disk) :
    (fuel : Nat) →
    Term →
    List String →
    Except String (Bool × List String)
  | 0, _, _ => .error "too many arguments"
  | fuel + 1, term, texts =>
      match term, texts with
      | .finish, texts => .ok (false, texts)
      | _, [] => .ok (false, [])
      | .opening, _ :: rest => do
          let next := Term.ofTexts disk rest
          if next = .closing then return (false, rest)
          let (truth, last) ← readAny disk fuel next rest
          if Term.ofTexts disk (last.drop 1) ≠ .closing then
            throw "closing paren expected"
          return (truth, last.drop 1)
      | .unary, sign :: rest =>
          match unary? disk sign, rest with
          | some holds, text :: _ => .ok (holds text, rest)
          | _, _ => .error (sign ++ ": argument expected")
      | _, first :: rest =>
          match rest with
          | sign :: others =>
              match binary? disk sign, others with
              | some holds, second :: _ =>
                  (holds first second).map (·, others)
              | some _, [] =>
                  .error (sign ++ ": argument expected")
              | none, _ => .ok (first != "", texts)
          | [] => .ok (first != "", texts)
termination_by structural fuel => fuel

end

def evaluate
    (disk : Disk)
    (term : Term)
    (texts : List String) : Except String Bool := do
  match ← readAny disk (4 * texts.length + 8) term texts with
  | (_, text :: _ :: _) =>
      throw
        (if text.isEmpty then "unexpected operator"
        else text ++ ": unexpected operator")
  | (truth, _) => return truth

/-
  The truth of a condition.  Among three arguments a sign in
  the middle comes first.  Then parentheses around arguments
  and a negation of all are seen.
-/
def holds
    (disk : Disk) :
    (fuel : Nat) → List String → Except String Bool
  | 0, _ => .ok false
  | _, [] => .ok false
  | fuel + 1, text :: rest =>
      let texts := text :: rest
      let plain (texts : List String) : Except String Bool :=
        evaluate disk (Term.ofTexts disk texts) texts
      let isBetween :=
        texts.length = 3 &&
          (rest.head?.bind (binary? disk)).isSome
      if isBetween then evaluate disk .operand texts
      else if texts.length = 3 || texts.length = 4 then
        if text = "(" && texts.getLast? = some ")" then
          plain rest.dropLast
        else if text = "!" then (holds disk fuel rest).map not
        else plain texts
      else plain texts

end Condition

/- Test a condition, whose arguments may end in a bracket. -/
def Tool.test
    (isBracket : Bool) : Tool := fun arguments => do
  if isBracket && arguments.getLast? ≠ some "]" then
    Step.complain "missing ]"
    return 2
  let texts := if isBracket then arguments.dropLast else arguments
  match Condition.holds (← get).disk (texts.length + 1) texts with
  | .ok truth => return if truth then 0 else 1
  | .error text =>
      Step.complain text
      return 2

end Script

end TextMate
