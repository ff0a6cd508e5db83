/-
  This file defines the regular expressions of rules: a source
  with options for the whole of it.

  A document writes the options as a group in front of the
  source.  Only a group in its canonical form is taken for
  options, so the text of a pattern is rebuilt exactly.

  Key definitions include:
    * `Flags`
    * `Flags.letters`
    * `Flags.split`
    * `Pattern`
    * `Pattern.ofText`
    * `Pattern.text`
    * `Pattern.hasBackreferences`
    * `PatternValue`
-/

namespace TextMate

------------------------------------------------------------
-- Flags
------------------------------------------------------------

/- Options that hold for a whole pattern. -/
structure Flags where
  ignoreCase : Bool
  multiline : Bool
  extended : Bool
deriving DecidableEq, Inhabited

namespace Flags

/- No option at all. -/
def none : Flags := ⟨false, false, false⟩

/- The letter of an option that is set. -/
def letter
    (isSet : Bool)
    (c : Char) : List Char :=
  if isSet then [c] else []

/- The letters of the options that are set, in order. -/
def letters
    (flags : Flags) : List Char :=
  letter flags.ignoreCase 'i' ++
    letter flags.multiline 'm' ++
    letter flags.extended 'x'

/- The options whose letters occur, in any order. -/
def ofLetters
    (letters : List Char) : Flags :=
  ⟨letters.contains 'i', letters.contains 'm',
    letters.contains 'x'⟩

/- The letters of the options as a text. -/
def text
    (flags : Flags) : String :=
  String.ofList flags.letters

/- The group that stands for the options in a document. -/
def group
    (flags : Flags) : List Char :=
  '(' :: '?' :: (flags.letters ++ [')'])

/-
  Split a canonical group of options off the front of a text.
  Any other group stays in the source.
-/
def split
    (text : List Char) : Flags × List Char :=
  match text with
  | '(' :: '?' :: rest =>
      let letters := rest.takeWhile (· != ')')
      let flags := ofLetters letters
      match rest.dropWhile (· != ')') with
      | _ :: source =>
          if flags != none && flags.letters == letters then
            (flags, source)
          else (none, text)
      | [] => (none, text)
  | _ => (none, text)

end Flags

------------------------------------------------------------
-- Patterns
------------------------------------------------------------

/- A regular expression: its source and its options. -/
structure Pattern where
  source : String
  flags : Flags
deriving DecidableEq, Inhabited

namespace Pattern

/- The pattern that a text stands for. -/
def ofText
    (text : String) : Pattern :=
  let (flags, source) := Flags.split text.toList
  ⟨String.ofList source, flags⟩

/- Replace the options of a pattern. -/
def withFlags
    (pattern : Pattern)
    (flags : Flags) : Pattern :=
  { pattern with flags := flags }

/- The pattern as written in a document. -/
def text
    (pattern : Pattern) : String :=
  if pattern.flags = Flags.none then pattern.source
  else
    String.ofList
      (pattern.flags.group ++ pattern.source.toList)

/- The pattern between slashes, with its options behind. -/
def display
    (pattern : Pattern) : String :=
  "/" ++ pattern.source ++ "/" ++ pattern.flags.text

/- The digits that refer to a capture group. -/
def isGroupDigit
    (c : Char) : Bool :=
  '1' ≤ c && c ≤ '9'

/- A backslash stands in front of a group digit somewhere. -/
def refersToGroup : List Char → Bool
  | [] => false
  | c :: rest =>
      (c == '\\' && (rest.head?.any isGroupDigit)) ||
        refersToGroup rest

/-
  The source has the text of a reference to a capture group,
  which may be a group of another pattern.
-/
def hasBackreferences
    (pattern : Pattern) : Bool :=
  refersToGroup pattern.source.toList

end Pattern

------------------------------------------------------------
-- Pattern Values
------------------------------------------------------------

/-
  The value of a pattern field: a pattern, or a text that is
  written to a document as it stands.
-/
inductive PatternValue where
  | compiled (pattern : Pattern)
  | verbatim (text : String)
deriving DecidableEq

namespace PatternValue

/- The value as written in a document. -/
def toText : PatternValue → String
  | .compiled pattern => pattern.text
  | .verbatim text => text

/- The pattern of a value that is not a plain text. -/
def pattern? : PatternValue → Option Pattern
  | .compiled pattern => some pattern
  | .verbatim _ => none

end PatternValue

end TextMate
