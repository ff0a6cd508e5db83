import TextMate.Formatter.Script.Number

/-
  This file defines the values of expressions in shell
  scripts.  Numbers have 64 bits.  A name stands for the number
  that its value writes, and for zero if it has no value.

  An expression is read while it is evaluated.  Parts that do
  not count, such as the branch of a choice that is not taken,
  are only read.

  Key definitions include:
    * `Arithmetic.Token`
    * `Arithmetic.tokens`
    * `Arithmetic.Operator`
    * `Arithmetic.readExpression`
    * `Arithmetic.evaluate`
-/

namespace TextMate

namespace Script

namespace Arithmetic

open Text (isAlphanumeric isDigit)
open Number (clamp takeUnsigned wrap)

/- What is wrong with an expression. -/
inductive Fault where
  | noOperand
  | noEnd
  | noColon
  | noClosing
  | zeroDivisor
  | noNumber (text : String)
deriving DecidableEq

def Fault.text
    (expression : List Char)
    (fault : Fault) : String :=
  let about (reason : String) : String :=
    "arithmetic expression: " ++ reason ++ ": \"" ++
      String.ofList expression ++ "\""
  match fault with
  | .noOperand => about "expecting primary"
  | .noEnd => about "expecting EOF"
  | .noColon => about "expecting ':'"
  | .noClosing => about "expecting ')'"
  | .zeroDivisor => about "division by zero"
  | .noNumber text => "Illegal number: " ++ text

------------------------------------------------------------
-- Numbers
------------------------------------------------------------

/- A text without the blanks at its start. -/
def skipBlanks
    (text : List Char) : List Char :=
  text.dropWhile fun c => c == ' ' || c == '\t' || c == '\n'

/- The number that a value writes.  Nothing counts as zero. -/
def numberOf
    (value : String) : Except Fault Int :=
  let text := skipBlanks value.toList
  let isNegative := text.head? = some '-'
  let digits :=
    if isNegative || text.head? = some '+' then text.drop 1
    else text
  let isWritten := digits.head?.any isDigit
  let (number, rest) :=
    if isWritten then takeUnsigned digits else (0, text)
  if !(skipBlanks rest).isEmpty then .error (.noNumber value)
  else if isNegative then .ok (clamp (-number))
  else .ok (clamp number)

/- The number for a truth. -/
def ofBool
    (truth : Bool) : Int :=
  if truth then 1 else 0

------------------------------------------------------------
-- Tokens
------------------------------------------------------------

/- A part of an expression. -/
inductive Token where
  | number (value : Int)
  | name (text : String)
  | sign (text : String)
deriving DecidableEq

/- The signs of several characters, longer ones first. -/
def longSigns : List String :=
  ["<<=", ">>=", "<<", ">>", "<=", ">=", "==", "!=", "&&",
    "||", "+=", "-=", "*=", "/=", "%=", "&=", "|=", "^="]

/- The sign at the start of a text, and what follows it. -/
def takeSign
    (c : Char)
    (rest : List Char) : String × List Char :=
  let isNext (sign : String) : Bool :=
    sign.toList.isPrefixOf (c :: rest)
  match longSigns.find? isNext with
  | some sign => (sign, (c :: rest).drop sign.length)
  | none => (String.singleton c, rest)

def isNamePart
    (c : Char) : Bool :=
  isAlphanumeric c || c == '_'

def tokens :
    (fuel : Nat) → List Char → List Token
  | 0, _ => []
  | fuel + 1, text =>
      match skipBlanks text with
      | [] => []
      | c :: rest =>
          if isDigit c then
            let (value, rest) := takeUnsigned (c :: rest)
            .number (clamp value) :: tokens fuel rest
          else if isNamePart c then
            let name := (c :: rest).takeWhile isNamePart
            .name (String.ofList name) ::
              tokens fuel ((c :: rest).dropWhile isNamePart)
          else
            let (sign, rest) := takeSign c rest
            .sign sign :: tokens fuel rest

------------------------------------------------------------
-- Operators
------------------------------------------------------------

/- An operator between two numbers. -/
inductive Operator where
  | times | divide | modulo
  | plus | minus
  | shiftLeft | shiftRight
  | less | greater | atMost | atLeast
  | equal | different
  | bitAnd | bitXor | bitOr
deriving DecidableEq

namespace Operator

/- The operators of each strength, the weakest first. -/
def levels : List (List (String × Operator)) :=
  [[("|", .bitOr)],
    [("^", .bitXor)],
    [("&", .bitAnd)],
    [("==", .equal), ("!=", .different)],
    [("<", .less), (">", .greater), ("<=", .atMost),
      (">=", .atLeast)],
    [("<<", .shiftLeft), (">>", .shiftRight)],
    [("+", .plus), ("-", .minus)],
    [("*", .times), ("/", .divide), ("%", .modulo)]]

/- The operator of a sign that also gives its value a name. -/
def ofAssignment? : String → Option (Option Operator)
  | "=" => some none
  | "*=" => some (some .times)
  | "/=" => some (some .divide)
  | "%=" => some (some .modulo)
  | "+=" => some (some .plus)
  | "-=" => some (some .minus)
  | "<<=" => some (some .shiftLeft)
  | ">>=" => some (some .shiftRight)
  | "&=" => some (some .bitAnd)
  | "^=" => some (some .bitXor)
  | "|=" => some (some .bitOr)
  | _ => none

def onBits
    (operation : BitVec 64 → BitVec 64 → BitVec 64)
    (a b : Int) : Int :=
  (operation (BitVec.ofInt 64 a) (BitVec.ofInt 64 b)).toInt

/- The number of places by which bits are shifted. -/
def places
    (number : Int) : Nat :=
  (number % 64).toNat

/- The number that an operator yields. -/
def apply
    (operator : Operator)
    (a b : Int) : Except Fault Int :=
  match operator with
  | .times => .ok (wrap (a * b))
  | .divide =>
      if b = 0 then .error .zeroDivisor
      else .ok (wrap (a.tdiv b))
  | .modulo =>
      if b = 0 then .error .zeroDivisor
      else .ok (a.tmod b)
  | .plus => .ok (wrap (a + b))
  | .minus => .ok (wrap (a - b))
  | .shiftLeft => .ok (wrap (a * Nat.pow 2 (places b)))
  | .shiftRight => .ok (a.fdiv (Nat.pow 2 (places b)))
  | .less => .ok (ofBool (decide (a < b)))
  | .greater => .ok (ofBool (decide (b < a)))
  | .atMost => .ok (ofBool (decide (a ≤ b)))
  | .atLeast => .ok (ofBool (decide (b ≤ a)))
  | .equal => .ok (ofBool (a == b))
  | .different => .ok (ofBool (a != b))
  | .bitAnd => .ok (onBits (· &&& ·) a b)
  | .bitXor => .ok (onBits (· ^^^ ·) a b)
  | .bitOr => .ok (onBits (· ||| ·) a b)

end Operator

------------------------------------------------------------
-- Evaluation
------------------------------------------------------------

/-
  What is left of an expression, and the values that it gave
  to names so far, the last one first.
-/
structure Progress where
  rest : List Token
  assigned : List (String × String)

/- A step that reads a part of an expression. -/
abbrev Reader := StateT Progress (Except Fault)

namespace Reader

/- Go on with other tokens. -/
def setRest
    (rest : List Token) : Reader Unit :=
  modify fun progress => { progress with rest := rest }

/- Go on after a sign if it comes next. -/
def accept
    (sign : String) : Reader Bool := do
  match (← get).rest with
  | .sign next :: rest =>
      if next = sign then
        setRest rest
        return true
      else return false
  | _ => return false

/- The number that a name stands for. -/
def lookUp
    (value : String → String)
    (name : String) : Reader Int := do
  let text :=
    (List.lookup name (← get).assigned).getD (value name)
  numberOf text

/- Give a name a number. -/
def assign
    (name : String)
    (number : Int) : Reader Unit :=
  modify fun progress =>
    { progress with
      assigned := (name, toString number) :: progress.assigned }

end Reader

def findOperator?
    (operators : List (String × Operator)) :
    List Token → Option (Operator × List Token)
  | .sign sign :: rest =>
      (List.lookup sign operators).map (·, rest)
  | _ => none

/-
  Read an expression.  A part that is not live has no effect,
  and its number does not matter.
-/
mutual

def readExpression
    (value : String → String) :
    (fuel : Nat) → (isLive : Bool) → Reader Int
  | 0, _ => throw .noOperand
  | fuel + 1, isLive => do
      let plain : Reader Int := readChoice value fuel isLive
      match (← get).rest with
      | .name name :: .sign sign :: rest =>
          match Operator.ofAssignment? sign with
          | none => plain
          | some operator? =>
              Reader.setRest rest
              let number ← readExpression value fuel isLive
              if !isLive then return number
              let number ←
                match operator? with
                | none => pure number
                | some operator => do
                    let before ← Reader.lookUp value name
                    operator.apply before number
              Reader.assign name number
              return number
      | _ => plain
termination_by structural fuel => fuel

/- Read a choice between two expressions by a third one. -/
def readChoice
    (value : String → String) :
    (fuel : Nat) → (isLive : Bool) → Reader Int
  | 0, _ => throw .noOperand
  | fuel + 1, isLive => do
      let condition ← readEither value fuel isLive
      if ← Reader.accept "?" then
        let yes ←
          readExpression value fuel (isLive && condition != 0)
        if !(← Reader.accept ":") then throw .noColon
        let no ←
          readChoice value fuel (isLive && condition == 0)
        return if condition != 0 then yes else no
      else return condition
termination_by structural fuel => fuel

/- Read expressions of which one has to be true. -/
def readEither
    (value : String → String) :
    (fuel : Nat) → (isLive : Bool) → Reader Int
  | 0, _ => throw .noOperand
  | fuel + 1, isLive => do
      let first ← readBoth value fuel isLive
      if ← Reader.accept "||" then
        let second ←
          readEither value fuel (isLive && first == 0)
        return ofBool (first != 0 || second != 0)
      else return first
termination_by structural fuel => fuel

/- Read expressions that all have to be true. -/
def readBoth
    (value : String → String) :
    (fuel : Nat) → (isLive : Bool) → Reader Int
  | 0, _ => throw .noOperand
  | fuel + 1, isLive => do
      let first ← readLevel value fuel Operator.levels isLive
      if ← Reader.accept "&&" then
        let second ←
          readBoth value fuel (isLive && first != 0)
        return ofBool (first != 0 && second != 0)
      else return first
termination_by structural fuel => fuel

def readLevel
    (value : String → String) :
    (fuel : Nat) →
    List (List (String × Operator)) →
    (isLive : Bool) →
    Reader Int
  | 0, _, _ => throw .noOperand
  | fuel + 1, [], isLive => readOperand value fuel isLive
  | fuel + 1, operators :: stronger, isLive => do
      let first ← readLevel value fuel stronger isLive
      readFurther value fuel operators stronger isLive first
termination_by structural fuel => fuel

def readFurther
    (value : String → String) :
    (fuel : Nat) →
    List (String × Operator) →
    List (List (String × Operator)) →
    (isLive : Bool) →
    Int →
    Reader Int
  | 0, _, _, _, _ => throw .noOperand
  | fuel + 1, operators, stronger, isLive, first => do
      match findOperator? operators (← get).rest with
      | none => return first
      | some (operator, rest) =>
          Reader.setRest rest
          let second ← readLevel value fuel stronger isLive
          let result ←
            if isLive then operator.apply first second
            else pure second
          readFurther value fuel operators stronger isLive
            result
termination_by structural fuel => fuel

def readOperand
    (value : String → String) :
    (fuel : Nat) → (isLive : Bool) → Reader Int
  | 0, _ => throw .noOperand
  | fuel + 1, isLive => do
      match (← get).rest with
      | .number number :: rest =>
          Reader.setRest rest
          return number
      | .name name :: rest =>
          Reader.setRest rest
          if isLive then Reader.lookUp value name
          else return 0
      | .sign "+" :: rest =>
          Reader.setRest rest
          readOperand value fuel isLive
      | .sign "-" :: rest =>
          Reader.setRest rest
          return wrap (-(← readOperand value fuel isLive))
      | .sign "!" :: rest =>
          Reader.setRest rest
          return ofBool ((← readOperand value fuel isLive) == 0)
      | .sign "~" :: rest =>
          Reader.setRest rest
          return -(← readOperand value fuel isLive) - 1
      | .sign "(" :: rest =>
          Reader.setRest rest
          let number ← readExpression value fuel isLive
          if !(← Reader.accept ")") then throw .noClosing
          return number
      | _ => throw .noOperand
termination_by structural fuel => fuel

end

/-
  The number of an expression, and the values that it gives to
  names, in order.
-/
def evaluate
    (value : String → String)
    (expression : List Char) :
    Except Fault (Int × List (String × String)) := do
  let tokens := tokens (expression.length + 1) expression
  let (number, progress) ←
    (readExpression value (16 * tokens.length + 64) true).run
      ⟨tokens, []⟩
  if progress.rest.isEmpty then
    return (number, progress.assigned.reverse)
  else throw .noEnd

end Arithmetic

end Script

end TextMate
