import TextMate.Source.Token

/-
  This file defines the expressions of generated source and
  how they are laid out.

  A record and the lists that may grow long have a line for
  each part, and all else stays on the line where it starts.

  Key definitions include:
    * `Item`
    * `Callee`
    * `Expr`
    * `Expr.tokens`
    * `Expr.items`
-/

namespace TextMate

namespace Source

------------------------------------------------------------
-- Items
------------------------------------------------------------

/- A type that generated source takes from the library. -/
inductive Item where
  | captures
  | error
  | extraValue
  | grammar
  | pattern
  | patternValue
  | repository
  | scope
deriving DecidableEq

namespace Item

/- Every item, by ascending name. -/
def all : List Item :=
  [.captures, .error, .extraValue, .grammar, .pattern,
    .patternValue, .repository, .scope]

/- The list of all items leaves none out. -/
theorem mem_all
    (item : Item) :
    item ∈ all := by
  cases item <;> decide

def name : Item → String
  | .captures => "Captures"
  | .error => "Error"
  | .extraValue => "ExtraValue"
  | .grammar => "Grammar"
  | .pattern => "Pattern"
  | .patternValue => "PatternValue"
  | .repository => "Repository"
  | .scope => "Scope"

/- The items that occur in a list, by ascending name. -/
def sorted
    (items : List Item) : List Item :=
  all.filter items.contains

end Item

------------------------------------------------------------
-- Expressions
------------------------------------------------------------

/-
  What is called: a variant of an option or a result, a
  function of an item, or the function of a repository entry.
-/
inductive Callee where
  | variant (name : String)
  | member (item : Item) (name : String)
  | entry (name : String)
deriving DecidableEq

/- An expression. -/
inductive Expr where
  | quoted (text : String)
  | literal (text : String)
  | number (value : Nat)
  | call (callee : Callee) (arguments : List Expr)
  | converted (expr : Expr)
  | checked (expr : Expr)
  | pair (first : Expr) (second : Expr)
  | array (parts : List Expr)
  | vector (parts : List Expr)
  | row (parts : List Expr)
  | record (item : Item) (fields : List (String × Expr))
      (isComplete : Bool)

namespace Expr

/- The call of a function without arguments. -/
def constant
    (item : Item)
    (name : String) : Expr :=
  .call (.member item name) []

/- The call of a function of an item on an argument. -/
def apply
    (item : Item)
    (name : String)
    (argument : Expr) : Expr :=
  .call (.member item name) [argument]

/- A value that is there. -/
def present
    (value : Expr) : Expr :=
  .call (.variant "Some") [value]

/- A quoted text that is converted to an owned one. -/
def owned
    (text : String) : Expr :=
  .converted (.quoted text)

end Expr

------------------------------------------------------------
-- Layout
------------------------------------------------------------

/- The signs of a text, one by one. -/
def signs
    (cs : List Char) : List Token :=
  cs.map .sign

/- The separator inside a path. -/
def pathSign : List Token :=
  signs [':', ':']

def Callee.tokens : Callee → List Token
  | .variant name => [.word name]
  | .member item name =>
      .word item.name :: (pathSign ++ [.word name])
  | .entry name =>
      .word "repository" :: (pathSign ++ [.word name])

/- The last line of a record that leaves fields out. -/
def defaultTokens
    (item : Item)
    (depth : Nat) : List Token :=
  .line depth :: (signs ['.', '.'] ++
    (Callee.member item "default").tokens ++
    signs ['(', ')'])

/- The line on which parts end that have a line each. -/
def closingLine
    (depth : Nat)
    (parts : List Expr) : List Token :=
  if parts.isEmpty then [] else [.line depth]

namespace Expr

/- The tokens of an expression on a line of some depth. -/
mutual

def tokens
    (depth : Nat) : Expr → List Token
  | .quoted text => [.quoted text]
  | .literal text => [.literal text]
  | .number value => [.number value]
  | .call callee arguments =>
      callee.tokens ++ .sign '(' ::
        (rowTokens depth true arguments ++ [.sign ')'])
  | .converted expr =>
      expr.tokens depth ++
        [.sign '.', .word "into", .sign '(', .sign ')']
  | .checked expr => expr.tokens depth ++ [.sign '?']
  | .pair first second =>
      .sign '(' :: (first.tokens depth ++ .sign ',' ::
        .blank :: (second.tokens depth ++ [.sign ')']))
  | .array parts =>
      .sign '[' :: (partTokens (depth + 1) parts ++
        (closingLine depth parts ++ [.sign ']']))
  | .vector parts =>
      .word "vec" :: .sign '!' :: .sign '[' ::
        (partTokens (depth + 1) parts ++
          (closingLine depth parts ++ [.sign ']']))
  | .row parts =>
      .word "vec" :: .sign '!' :: .sign '[' ::
        (rowTokens depth true parts ++ [.sign ']'])
  | .record item fields isComplete =>
      .word item.name :: .blank :: .sign '\x7b' ::
        (fieldTokens (depth + 1) fields ++
          ((if isComplete then []
            else defaultTokens item (depth + 1)) ++
          [.line depth, .sign '\x7d']))
termination_by structural x => x

/- The tokens of parts that have a line each. -/
def partTokens
    (depth : Nat) : List Expr → List Token
  | [] => []
  | part :: parts =>
      .line depth :: (part.tokens depth ++ .sign ',' ::
        partTokens depth parts)
termination_by structural x => x

/- The tokens of parts on one line. -/
def rowTokens
    (depth : Nat)
    (isFirst : Bool) : List Expr → List Token
  | [] => []
  | part :: parts =>
      (if isFirst then [] else [.sign ',', .blank]) ++
        (part.tokens depth ++ rowTokens depth false parts)
termination_by structural x => x

/- The tokens of the fields of a record, a line for each. -/
def fieldTokens
    (depth : Nat) : List (String × Expr) → List Token
  | [] => []
  | (name, value) :: fields =>
      .line depth :: .word name :: .sign ':' :: .blank ::
        (value.tokens depth ++ .sign ',' ::
          fieldTokens depth fields)
termination_by structural x => x

end

/- The text of an expression on a line of some depth. -/
def text
    (depth : Nat)
    (expr : Expr) : String :=
  Token.textOf (expr.tokens depth)

end Expr

------------------------------------------------------------
-- Items in Use
------------------------------------------------------------

/- The item that is named where a function is called. -/
def Callee.items : Callee → List Item
  | .member item _ => [item]
  | .variant _ | .entry _ => []

namespace Expr

/- The items that an expression names, in order. -/
mutual

def items : Expr → List Item
  | .quoted _ | .literal _ | .number _ => []
  | .call callee arguments =>
      callee.items ++ partItems arguments
  | .converted expr => expr.items
  | .checked expr => expr.items
  | .pair first second => first.items ++ second.items
  | .array parts => partItems parts
  | .vector parts => partItems parts
  | .row parts => partItems parts
  | .record item fields _ => item :: fieldItems fields
termination_by structural x => x

def partItems : List Expr → List Item
  | [] => []
  | part :: parts => part.items ++ partItems parts
termination_by structural x => x

def fieldItems : List (String × Expr) → List Item
  | [] => []
  | (_, value) :: fields => value.items ++ fieldItems fields
termination_by structural x => x

end

end Expr

end Source

end TextMate
