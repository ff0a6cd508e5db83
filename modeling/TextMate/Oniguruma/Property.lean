import TextMate.Oniguruma.PropertyTable
import TextMate.Oniguruma.Refusal

/-
  This file defines which names are names of a character
  property.  Case, blanks, hyphens and underscores do not
  count.

  Key definitions include:
    * `foldPropertyName`
    * `isPropertyName`
    * `readProperty`
-/

namespace TextMate

namespace Oniguruma

/- The characters that do not count in a property name. -/
def isPropertyFiller
    (c : Char) : Bool :=
  c == ' ' || c == '-' || c == '_'

/- A property name as it stands in the tables. -/
def foldPropertyName
    (name : List Char) : String :=
  String.ofList
    ((name.filter (fun c => !isPropertyFiller c)).map
      Char.toLower)

/- A folded name stands in one of the tables. -/
def isTabulated
    (folded : String) : Bool :=
  posixNames.contains folded ||
    categoryNames.contains folded ||
    scriptNames.contains folded ||
    binaryNames.contains folded ||
    blockNames.contains folded

def isPropertyName
    (name : List Char) : Bool :=
  name.all (fun c => c.toNat < 128) &&
    isTabulated (foldPropertyName name)

def endsPropertyName
    (c : Char) : Bool :=
  c == '}' || c == '(' || c == ')' || c == '{' || c == '|'

/-
  Read a property name and its closing brace, and return what
  is left.
-/
def readProperty
    (text : List Char) :
    Except Refusal (List Char) :=
  let name := text.takeWhile (fun c => !endsPropertyName c)
  match text.dropWhile (fun c => !endsPropertyName c) with
  | [] => .error .unclosedParenthesis
  | c :: rest =>
      if c ≠ '}' then .error .unclosedParenthesis
      else if isPropertyName name then .ok rest
      else .error (.invalidProperty name)

end Oniguruma

end TextMate
