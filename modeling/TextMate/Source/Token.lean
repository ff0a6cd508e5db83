import TextMate.Source.Literal

/-
  This file defines the tokens of generated source, with the
  blanks and line breaks between them.

  Key definitions include:
    * `Token`
    * `Token.chars`
    * `Token.textOf`
-/

namespace TextMate

namespace Source

/-
  A token of generated source, a blank, or a line break with
  the depth of the line that it starts.
-/
inductive Token where
  | word (text : String)
  | sign (c : Char)
  | number (value : Nat)
  | quoted (text : String)
  | literal (text : String)
  | blank
  | line (depth : Nat)
deriving DecidableEq

namespace Token

/- The blanks in front of a line, four for each level. -/
def indentation
    (depth : Nat) : List Char :=
  List.replicate (4 * depth) ' '

def chars : Token → List Char
  | .word text => text.toList
  | .sign c => [c]
  | .number value => Nat.toDigits 10 value
  | .quoted text => Text.quoted text.toList
  | .literal text => literalChars text.toList
  | .blank => [' ']
  | .line depth => '\n' :: indentation depth

def textOf
    (tokens : List Token) : String :=
  String.ofList (tokens.flatMap chars)

end Token

end Source

end TextMate
