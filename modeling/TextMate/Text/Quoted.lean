import TextMate.Text.Concealed

/-
  This file defines quoted texts: a string between quotes,
  with escapes for quotes, backslashes and all characters
  that have no visible form of their own.

  Key definitions include:
    * `escapeChar`
    * `quoted`
    * `quote`
-/

namespace TextMate

namespace Text

/- The character is shown by its code point. -/
def isConcealed
    (c : Char) : Bool :=
  if c.toNat < 127 then c.toNat < 32
  else concealed.contains c

/- The escape that gives a character by its code point. -/
def codePointEscape
    (c : Char) : List Char :=
  '\\' :: 'u' :: '{' :: (Nat.toDigits 16 c.toNat ++ ['}'])

/- The written form of a character inside quotes. -/
def escapeChar
    (c : Char) : List Char :=
  match c with
  | '\x00' => ['\\', '0']
  | '\t' => ['\\', 't']
  | '\r' => ['\\', 'r']
  | '\n' => ['\\', 'n']
  | '"' => ['\\', '"']
  | '\\' => ['\\', '\\']
  | c => if isConcealed c then codePointEscape c else [c]

def quoted
    (text : List Char) : List Char :=
  '"' :: (text.flatMap escapeChar ++ ['"'])

/- A string between quotes, escaped. -/
def quote
    (text : String) : String :=
  String.ofList (quoted text.toList)

end Text

end TextMate
