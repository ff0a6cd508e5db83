import TextMate.Text.CasedTable

/-
  This file defines the letters that make up the text in a
  pattern.  They are numbers, since some lie beyond Unicode.

  Key definitions include:
    * `Letter`
    * `Letter.ofChar`
    * `Letter.byteCount`
    * `Letter.isCased`
-/

namespace TextMate

namespace Oniguruma

structure Letter where
  code : Nat
deriving DecidableEq

namespace Letter

def ofChar
    (c : Char) : Letter :=
  ⟨c.toNat⟩

/- The number of bytes that write the letter. -/
def byteCount
    (letter : Letter) : Nat :=
  if letter.code < 0x80 then 1
  else if letter.code < 0x800 then 2
  else if letter.code < 0x10000 then 3
  else 4

/- Another letter is the same in another case. -/
def isCased
    (letter : Letter) : Bool :=
  Text.casedRanges.includes letter.code

end Letter

/- The number of bytes that write a row of letters. -/
def byteTotal
    (letters : List Letter) : Nat :=
  (letters.map Letter.byteCount).foldl (· + ·) 0

end Oniguruma

end TextMate
