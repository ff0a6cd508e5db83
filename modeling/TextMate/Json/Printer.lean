import TextMate.Json.Decimal
import TextMate.Json.Value

/-
  This file defines the two printed forms of a JSON value: a
  compact one without blanks, and a broad one with a member
  per line and a tab per level.

  Key definitions include:
    * `escapeChar`
    * `printString`
    * `compact`
    * `broad`
    * `compactObject`
    * `broadObject`
-/

namespace TextMate

namespace Json

------------------------------------------------------------
-- Scalars
------------------------------------------------------------

/- The printed form of a character of a string. -/
def escapeChar
    (c : Char) : List Char :=
  match c with
  | '"' => ['\\', '"']
  | '\\' => ['\\', '\\']
  | '\x08' => ['\\', 'b']
  | '\x0c' => ['\\', 'f']
  | '\n' => ['\\', 'n']
  | '\r' => ['\\', 'r']
  | '\t' => ['\\', 't']
  | c =>
      if c.toNat < 0x20 then
        ['\\', 'u', '0', '0',
          Nat.digitChar (c.toNat / 16),
          Nat.digitChar (c.toNat % 16)]
      else [c]

def printString
    (value : String) : List Char :=
  '"' :: (value.toList.flatMap escapeChar ++ ['"'])

def printNumber : Number → List Char
  | .integer value => (toString value).toList
  | .double value => value.text

/- The printed form of a truth value. -/
def printBool : Bool → List Char
  | true => ['t', 'r', 'u', 'e']
  | false => ['f', 'a', 'l', 's', 'e']

------------------------------------------------------------
-- Compact Form
------------------------------------------------------------

/- The compact form of a value. -/
mutual

def compact : Value → List Char
  | .null => ['n', 'u', 'l', 'l']
  | .bool value => printBool value
  | .number value => printNumber value
  | .string value => printString value
  | .array [] => ['[', ']']
  | .array (item :: items) =>
      '[' :: (compact item ++ compactItems items)
  | .object [] => ['{', '}']
  | .object ((key, value) :: fields) =>
      '{' :: (printString key ++ ':' :: compact value ++
        compactFields fields)
termination_by structural x => x

/- The further items of an array and its end. -/
def compactItems : List Value → List Char
  | [] => [']']
  | item :: items =>
      ',' :: (compact item ++ compactItems items)
termination_by structural x => x

/- The further members of an object and its end. -/
def compactFields : List (String × Value) → List Char
  | [] => ['}']
  | (key, value) :: fields =>
      ',' :: (printString key ++ ':' :: compact value ++
        compactFields fields)
termination_by structural x => x

end

------------------------------------------------------------
-- Broad Form
------------------------------------------------------------

/- The start of a line at some level. -/
def newLine
    (level : Nat) : List Char :=
  '\n' :: List.replicate level '\t'

/- The broad form of a value that stands at some level. -/
mutual

def broad : Value → Nat → List Char
  | .null, _ => ['n', 'u', 'l', 'l']
  | .bool value, _ => printBool value
  | .number value, _ => printNumber value
  | .string value, _ => printString value
  | .array [], _ => ['[', ']']
  | .array (item :: items), level =>
      '[' :: (newLine (level + 1) ++ broad item (level + 1) ++
        broadItems items level)
  | .object [], _ => ['{', '}']
  | .object ((key, value) :: fields), level =>
      '{' :: (newLine (level + 1) ++ printString key ++
        ':' :: ' ' :: broad value (level + 1) ++
        broadFields fields level)
termination_by structural x => x

/- The further items of an array and its end. -/
def broadItems : List Value → Nat → List Char
  | [], level => newLine level ++ [']']
  | item :: items, level =>
      ',' :: (newLine (level + 1) ++ broad item (level + 1) ++
        broadItems items level)
termination_by structural x => x

/- The further members of an object and its end. -/
def broadFields : List (String × Value) → Nat → List Char
  | [], level => newLine level ++ ['}']
  | (key, value) :: fields, level =>
      ',' :: (newLine (level + 1) ++ printString key ++
        ':' :: ' ' :: broad value (level + 1) ++
        broadFields fields level)
termination_by structural x => x

end

------------------------------------------------------------
-- Texts
------------------------------------------------------------

def Object.compactText
    (fields : Object) : String :=
  String.ofList (compact (.object fields))

def Object.broadText
    (fields : Object) : String :=
  String.ofList (broad (.object fields) 0)

end Json

end TextMate
