import TextMate.Text.WordTable

/-
  This file defines the ASCII classes of characters and the
  word characters of Unicode.

  Key definitions include:
    * `isLower`
    * `isUpper`
    * `isDigit`
    * `isAlphanumeric`
    * `isWord`
    * `hexValue?`
-/

namespace TextMate

namespace Text

/- An ASCII letter in lower case. -/
def isLower
    (c : Char) : Bool :=
  'a' ≤ c && c ≤ 'z'

/- An ASCII letter in upper case. -/
def isUpper
    (c : Char) : Bool :=
  'A' ≤ c && c ≤ 'Z'

def isDigit
    (c : Char) : Bool :=
  '0' ≤ c && c ≤ '9'

/- An ASCII letter or digit. -/
def isAlphanumeric
    (c : Char) : Bool :=
  isLower c || isUpper c || isDigit c

/-
  A word character: a letter, a mark, a decimal digit or a
  connector such as the underscore.
-/
def isWord
    (c : Char) : Bool :=
  if c.toNat < 128 then isAlphanumeric c || c == '_'
  else wordRanges.contains c

def digitValue
    (c : Char) : Nat :=
  c.toNat - '0'.toNat

/- The value of a hexadecimal digit. -/
def hexValue?
    (c : Char) : Option Nat :=
  if isDigit c then some (digitValue c)
  else if 'a' ≤ c && c ≤ 'f' then
    some (c.toNat - 'a'.toNat + 10)
  else if 'A' ≤ c && c ≤ 'F' then
    some (c.toNat - 'A'.toNat + 10)
  else none

/- The number of bytes that a text takes in UTF-8. -/
def byteLength
    (text : List Char) : Nat :=
  text.foldr (fun c length => c.utf8Size + length) 0

end Text

end TextMate
