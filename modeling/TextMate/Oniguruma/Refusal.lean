import TextMate.Text.Word

/-
  This file defines the reasons for which Oniguruma refuses a
  pattern, with their messages.

  Key definitions include:
    * `Refusal`
    * `Refusal.message`
-/

namespace TextMate

namespace Oniguruma

/- A reason to refuse a pattern. -/
inductive Refusal where
  | endInGroup
  | unclosedParenthesis
  | unmatchedParenthesis
  | undefinedGroupOption
  | invalidGroupOption
  | invalidConditional
  | nothingToRepeat
  | invalidRepeatTarget
  | repeatTooBig
  | endAtEscape
  | endAtMeta
  | endAtControl
  | invalidMeta
  | invalidControl
  | invalidCodePoint
  | codePointTooLong
  | numberTooBig
  | incompleteBytes
  | emptyClass
  | unclosedClass
  | emptyRange
  | unmatchedRange
  | classEndsRange
  | invalidPosixClass
  | invalidProperty (name : List Char)
  | invalidReference
  | numberedReference
  | emptyGroupName
  | invalidGroupName (name : List Char)
  | invalidGroupNameChar (name : List Char)
  | undefinedName (name : List Char)
  | undefinedGroup (name : List Char)
  | ambiguousCall (name : List Char)
  | endlessRecursion
  | invalidLookBehind
  | vanishingLookBehind
  | invalidCallout
  | invalidCalloutName
  | invalidCalloutTag
  | repeatedCalloutTag (name : List Char)
  | invalidCalloutArgument
  | undefinedCallout
  | nestedTooDeep
deriving DecidableEq

namespace Refusal

/- The number of bytes of a name that a message shows. -/
def shownBytes : Nat := 27

/-
  The characters of a text that lie within a number of bytes.
  None when the limit falls inside a character.
-/
def takeBytes? : Nat → List Char → Option (List Char)
  | 0, _ => some []
  | _, [] => some []
  | n, c :: rest =>
      if c.utf8Size ≤ n then
        (takeBytes? (n - c.utf8Size) rest).map (c :: ·)
      else none
termination_by _ text => text.length

/-
  A name as a message shows it, cut when it is long.  None
  when the cut splits a character.
-/
def shownName?
    (name : List Char) : Option String :=
  if Text.byteLength name ≤ shownBytes then
    some (String.ofList name)
  else
    (takeBytes? shownBytes name).map fun start =>
      String.ofList start ++ "..."

def around
    (before : String)
    (name : List Char)
    (after : String) : String :=
  match shownName? name with
  | some name => before ++ name ++ after
  | none => "Onig error string was invalid UTF-8"

def message : Refusal → String
  | .endInGroup => "end pattern in group"
  | .unclosedParenthesis =>
      "end pattern with unmatched parenthesis"
  | .unmatchedParenthesis => "unmatched close parenthesis"
  | .undefinedGroupOption => "undefined group option"
  | .invalidGroupOption => "invalid group option"
  | .invalidConditional => "invalid if-else syntax"
  | .nothingToRepeat =>
      "target of repeat operator is not specified"
  | .invalidRepeatTarget =>
      "target of repeat operator is invalid"
  | .repeatTooBig => "too big number for repeat range"
  | .endAtEscape => "end pattern at escape"
  | .endAtMeta => "end pattern at meta"
  | .endAtControl => "end pattern at control"
  | .invalidMeta => "invalid meta-code syntax"
  | .invalidControl => "invalid control-code syntax"
  | .invalidCodePoint => "invalid code point value"
  | .codePointTooLong => "too long wide-char value"
  | .numberTooBig => "too big number"
  | .incompleteBytes => "too short multibyte code string"
  | .emptyClass => "empty char-class"
  | .unclosedClass => "premature end of char-class"
  | .emptyRange => "empty range in char class"
  | .unmatchedRange =>
      "unmatched range specifier in char-class"
  | .classEndsRange => "char-class value at end of range"
  | .invalidPosixClass => "invalid POSIX bracket type"
  | .invalidProperty name =>
      around "invalid character property name \x7b" name "\x7d"
  | .invalidReference => "invalid backref number/name"
  | .numberedReference =>
      "numbered backref/call is not allowed. (use name)"
  | .emptyGroupName => "group name is empty"
  | .invalidGroupName name =>
      around "invalid group name <" name ">"
  | .invalidGroupNameChar name =>
      around "invalid char in group name <" name ">"
  | .undefinedName name =>
      around "undefined name <" name "> reference"
  | .undefinedGroup name =>
      around "undefined group <" name "> reference"
  | .ambiguousCall name =>
      around "multiplex definition name <" name "> call"
  | .endlessRecursion => "never ending recursion"
  | .invalidLookBehind => "invalid pattern in look-behind"
  | .vanishingLookBehind => "undefined error code"
  | .invalidCallout => "invalid callout pattern"
  | .invalidCalloutName => "invalid callout name"
  | .invalidCalloutTag => "invalid callout tag name"
  | .repeatedCalloutTag name =>
      around "multiplex defined name <" name ">"
  | .invalidCalloutArgument => "invalid callout arg"
  | .undefinedCallout => "undefined callout name"
  | .nestedTooDeep => "parse depth limit over"

def report
    (refusal : Refusal) : String :=
  "Oniguruma error: " ++ refusal.message

end Refusal

end Oniguruma

end TextMate
