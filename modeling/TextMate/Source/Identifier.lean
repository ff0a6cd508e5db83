import TextMate.Text.Word

/-
  This file defines the identifiers of generated source: the
  snake case form of a name, made different from keywords.

  Key definitions include:
    * `keywords`
    * `snakeCase`
    * `identifier`
-/

namespace TextMate

namespace Source

open Text (isLower isUpper isDigit isAlphanumeric)

/- The words that cannot be identifiers. -/
def keywords : List String :=
  ["abstract", "as", "async", "await", "become", "box",
    "break", "const", "continue", "crate", "do", "dyn",
    "else", "enum", "extern", "false", "final", "fn", "for",
    "gen", "if", "impl", "in", "let", "loop", "macro",
    "match", "mod", "move", "mut", "override", "priv", "pub",
    "ref", "return", "self", "static", "struct", "super",
    "trait", "true", "try", "type", "typeof", "unsafe",
    "unsized", "use", "virtual", "where", "while", "yield"]

/- A capital letter after such a character starts a word. -/
def endsWord
    (c : Char) : Bool :=
  isLower c || isDigit c

/-
  The snake case form of a name.  `previous` is the character
  of the name before, and `afterBar` says that the form ends
  in an underscore so far.
-/
def snakeCase
    (previous : Option Char)
    (afterBar : Bool) : List Char → List Char
  | [] => []
  | c :: rest =>
      if isUpper c then
        if previous.any endsWord then
          '_' :: c.toLower :: snakeCase (some c) false rest
        else c.toLower :: snakeCase (some c) false rest
      else if isAlphanumeric c then
        c :: snakeCase (some c) false rest
      else if afterBar then snakeCase (some c) true rest
      else '_' :: snakeCase (some c) true rest

/-
  A form that can start an identifier: it has a letter or a
  digit and does not start with a digit.
-/
def canStart
    (form : List Char) : Bool :=
  form.any isAlphanumeric && !form.head?.any isDigit

/- What is put in front of a form that cannot start. -/
def ruleStart : List Char :=
  ['r', 'u', 'l', 'e', '_']

/- The identifier for a name. -/
def identifier
    (name : String) : String :=
  let form := snakeCase none false name.toList
  let form := if canStart form then form else ruleStart ++ form
  let word := String.ofList form
  if keywords.contains word then word ++ "_" else word

end Source

end TextMate
