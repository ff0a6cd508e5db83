import TextMate.Text.Ranges

/-
  This file defines blank characters, and texts without the
  blanks around them.

  Key definitions include:
    * `blankRanges`
    * `isBlank`
    * `trim`
-/

namespace TextMate

namespace Text

/- The characters that are white space. -/
def blankRanges : Ranges :=
  [(0x9, 0xd), (0x20, 0x20), (0x85, 0x85), (0xa0, 0xa0),
    (0x1680, 0x1680), (0x2000, 0x200a), (0x2028, 0x2029),
    (0x202f, 0x202f), (0x205f, 0x205f), (0x3000, 0x3000)]

/- The character is white space. -/
def isBlank
    (c : Char) : Bool :=
  blankRanges.contains c

/- A text without the blanks at its start and its end. -/
def trim
    (text : String) : String :=
  let start := text.toList.dropWhile isBlank
  String.ofList (start.reverse.dropWhile isBlank).reverse

end Text

end TextMate
