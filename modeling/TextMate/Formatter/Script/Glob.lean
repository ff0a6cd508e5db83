import TextMate.Text.Word

/-
  This file defines patterns of shell scripts, which match
  texts as a whole: a star stands for any text, a question
  mark for any character, and brackets for one of several.

  Key definitions include:
    * `Glob.Mark`
    * `Glob`
    * `Glob.ofText`
    * `Glob.accepts`
    * `Glob.trimStart`
    * `Glob.trimEnd`
-/

namespace TextMate

namespace Script

namespace Glob

/- A class of characters, from one to another. -/
structure Span where
  first : Char
  last : Char
deriving DecidableEq

/- A part of a pattern. -/
inductive Mark where
  | star
  | any
  | char (c : Char)
  | oneOf (isNegated : Bool) (spans : List Span)
deriving DecidableEq

end Glob

/- A pattern is the list of its parts. -/
abbrev Glob := List Glob.Mark

namespace Glob

------------------------------------------------------------
-- Reading
------------------------------------------------------------

/- A character, and whether it may have a meaning. -/
abbrev Source := List (Char × Bool)

def classSpans
    (name : List Char) : List Span :=
  let lower : List Span := [⟨'a', 'z'⟩]
  let upper : List Span := [⟨'A', 'Z'⟩]
  let digit : List Span := [⟨'0', '9'⟩]
  match String.ofList name with
  | "lower" => lower
  | "upper" => upper
  | "digit" => digit
  | "alpha" => lower ++ upper
  | "alnum" => lower ++ upper ++ digit
  | "space" => [⟨'\t', '\r'⟩, ⟨' ', ' '⟩]
  | "blank" => [⟨'\t', '\t'⟩, ⟨' ', ' '⟩]
  | "punct" =>
      [⟨'!', '/'⟩, ⟨':', '@'⟩, ⟨'[', '\x60'⟩, ⟨'\x7b', '~'⟩]
  | "xdigit" => digit ++ [⟨'a', 'f'⟩, ⟨'A', 'F'⟩]
  | _ => []

/- The name of a class at the start of a text. -/
def takeClass?
    (text : List Char) : Option (List Span × List Char) :=
  match text with
  | '[' :: ':' :: rest =>
      let name := rest.takeWhile (· != ':')
      match rest.drop name.length with
      | ':' :: ']' :: rest => some (classSpans name, rest)
      | _ => none
  | _ => none

/-
  Read spans up to the closing bracket, which stands for
  itself when it is the first.  None without the bracket.
-/
def readSpans? :
    (fuel : Nat) →
    (isFirst : Bool) →
    List Char →
    Option (List Span × List Char)
  | 0, _, _ => none
  | _, _, [] => none
  | fuel + 1, isFirst, c :: rest =>
      if c = ']' && !isFirst then some ([], rest)
      else
        let (found, rest) :=
          match takeClass? (c :: rest), rest with
          | some split, _ => split
          | none, '-' :: last :: after =>
              if last = ']' then ([⟨c, c⟩], rest)
              else ([⟨c, last⟩], after)
          | none, _ => ([⟨c, c⟩], rest)
        (readSpans? fuel false rest).map fun (spans, rest) =>
          (found ++ spans, rest)

def readClass?
    (text : List Char) : Option (Mark × List Char) :=
  let isNegated := text.head? = some '!' || text.head? = some '^'
  let inner := if isNegated then text.drop 1 else text
  (readSpans? (inner.length + 1) true inner).map
    fun (spans, rest) => (.oneOf isNegated spans, rest)

def readMarks : (fuel : Nat) → Source → Glob
  | 0, _ => []
  | _, [] => []
  | fuel + 1, (c, isActive) :: rest =>
      if !isActive then .char c :: readMarks fuel rest
      else if c = '*' then .star :: readMarks fuel rest
      else if c = '?' then .any :: readMarks fuel rest
      else if c = '[' then
        match readClass? (rest.map Prod.fst) with
        | some (mark, after) =>
            let used := rest.length - after.length
            mark :: readMarks fuel (rest.drop used)
        | none => .char c :: readMarks fuel rest
      else .char c :: readMarks fuel rest

def ofText
    (source : Source) : Glob :=
  readMarks (source.length + 1) source

------------------------------------------------------------
-- Matching
------------------------------------------------------------

/- The part matches a character. -/
def Mark.accepts
    (mark : Mark)
    (c : Char) : Bool :=
  match mark with
  | .star | .any => true
  | .char own => own == c
  | .oneOf isNegated spans =>
      (spans.any fun span => span.first ≤ c && c ≤ span.last)
        != isNegated

/- The pattern matches a text as a whole. -/
def accepts
    (glob : Glob)
    (text : List Char) : Bool :=
  match glob, text with
  | [], text => text.isEmpty
  | .star :: marks, [] => accepts marks []
  | .star :: marks, c :: rest =>
      accepts marks (c :: rest) || accepts (.star :: marks) rest
  | _ :: _, [] => false
  | mark :: marks, c :: rest =>
      mark.accepts c && accepts marks rest
termination_by (glob.length, text.length)

/- The ways to split a text in two, the first part growing. -/
def splits
    (text : List Char) : List (List Char × List Char) :=
  (List.range (text.length + 1)).map text.splitAt

/-
  A text without a part at its start that a pattern matches:
  the longest one, or the shortest.
-/
def trimStart
    (glob : Glob)
    (isGreedy : Bool)
    (text : List Char) : List Char :=
  let ways := if isGreedy then (splits text).reverse else splits text
  match ways.find? fun (start, _) => glob.accepts start with
  | some (_, rest) => rest
  | none => text

/-
  A text without a part at its end that a pattern matches: the
  longest one, or the shortest.
-/
def trimEnd
    (glob : Glob)
    (isGreedy : Bool)
    (text : List Char) : List Char :=
  let ways := if isGreedy then splits text else (splits text).reverse
  match ways.find? fun (_, rest) => glob.accepts rest with
  | some (start, _) => start
  | none => text

end Glob

end Script

end TextMate
