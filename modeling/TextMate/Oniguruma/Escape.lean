import TextMate.Oniguruma.Refusal

/-
  This file defines the numbers that escapes write: code
  points in hexadecimal and octal, raw bytes, and control and
  meta characters.

  Key definitions include:
    * `takeHex`
    * `takeOctal`
    * `isCodePoint`
    * `Codes`
    * `readBracedCodes`
    * `readEscapedValue`
-/

namespace TextMate

namespace Oniguruma

open Text (digitValue hexValue?)

------------------------------------------------------------
-- Numerals
------------------------------------------------------------

def octalValue?
    (c : Char) : Option Nat :=
  if '0' ≤ c && c ≤ '7' then some (digitValue c) else none

/- A number read from digits, and what follows it. -/
structure Numeral where
  value : Nat
  count : Nat
  rest : List Char

/- Read at most `limit` digits of a base. -/
def takeDigits
    (digit? : Char → Option Nat)
    (base : Nat) :
    (limit value count : Nat) → List Char → Numeral
  | 0, value, count, text => ⟨value, count, text⟩
  | _, value, count, [] => ⟨value, count, []⟩
  | limit + 1, value, count, c :: text =>
      match digit? c with
      | some d =>
          takeDigits digit? base limit (value * base + d)
            (count + 1) text
      | none => ⟨value, count, c :: text⟩

/- Read at most `limit` hexadecimal digits. -/
def takeHex
    (limit : Nat)
    (text : List Char) : Numeral :=
  takeDigits hexValue? 16 limit 0 0 text

def takeOctal
    (limit : Nat)
    (text : List Char) : Numeral :=
  takeDigits octalValue? 8 limit 0 0 text

def decimalValue?
    (c : Char) : Option Nat :=
  if Text.isDigit c then some (digitValue c) else none

/- Read decimal digits as long as there are any. -/
def takeDecimal
    (text : List Char) : Numeral :=
  takeDigits decimalValue? 10 text.length 0 0 text

/- The greatest number that group references can hold. -/
def maxNumber : Nat := Nat.pow 2 31 - 1

------------------------------------------------------------
-- Code Points
------------------------------------------------------------

/- Code points end below this number. -/
def codeLimit : Nat := 0x200000

/-
  The number is a code point: four bytes in the manner of
  UTF-8 can hold it.  That is more than Unicode assigns.
-/
def isCodePoint
    (code : Nat) : Bool :=
  code < codeLimit

/- A code point, or the mark between the ends of a range. -/
inductive CodeItem where
  | code (value : Nat)
  | range
deriving DecidableEq

/-
  The code points between braces, and what follows them.  They
  are a list unless the brace closes right after the first one.
-/
structure Codes where
  items : List CodeItem
  isList : Bool
  rest : List Char

/- The two bases in which code points are written. -/
inductive CodeBase where
  | hexadecimal
  | octal
deriving DecidableEq

namespace CodeBase

/- Read the digits of a code point. -/
def take : CodeBase → List Char → Numeral
  | .hexadecimal => takeHex 8
  | .octal => takeOctal 11

def isDigit : CodeBase → Char → Bool
  | .hexadecimal, c => (hexValue? c).isSome
  | .octal, c => (octalValue? c).isSome

/-
  The character would make the first code point too long.
  After octal digits a decimal one does so too.
-/
def extendsFirst : CodeBase → Char → Bool
  | .hexadecimal, c => (hexValue? c).isSome
  | .octal, c => Text.isDigit c

end CodeBase

/- The blanks that separate code points. -/
def isCodeDivider
    (c : Char) : Bool :=
  c == ' ' || c == '\n'

/- The greatest word that digits can write. -/
def maxWord : Nat := 0xFFFFFFFF

/-
  Take the digits of a code point.  `extends?` tells which
  character after them makes it too long.
-/
def takeCode
    (base : CodeBase)
    (extends? : Char → Bool)
    (text : List Char) :
    Except Refusal Numeral :=
  let numeral := base.take text
  if maxWord < numeral.value then .error .numberTooBig
  else if numeral.rest.head?.any extends? then
    .error .codePointTooLong
  else .ok numeral

def readCode
    (base : CodeBase)
    (text : List Char) :
    Except Refusal Numeral :=
  if (base.take text).count = 0 then .error .invalidCodePoint
  else takeCode base base.isDigit text

/-
  Read further code points up to the closing brace.  Ranges
  are only known inside a character class.  `afterRange` says
  that the last code point ended a range.
-/
def readCodeItems
    (base : CodeBase)
    (allowRange afterRange : Bool) :
    (fuel : Nat) → List Char → Except Refusal Codes
  | 0, _ => .error .invalidCodePoint
  | fuel + 1, text =>
      match text.dropWhile isCodeDivider with
      | [] => .error .invalidCodePoint
      | '}' :: rest => .ok ⟨[], true, rest⟩
      | c :: rest =>
          if c = '-' && allowRange then
            if afterRange then .error .invalidCodePoint
            else do
              let numeral ←
                readCode base (rest.dropWhile isCodeDivider)
              let codes ←
                readCodeItems base allowRange true fuel
                  numeral.rest
              return ⟨.range :: .code numeral.value ::
                codes.items, true, codes.rest⟩
          else if text.head? = some c then
            .error .invalidCodePoint
          else do
            let numeral ← readCode base (c :: rest)
            let codes ←
              readCodeItems base allowRange false fuel
                numeral.rest
            return ⟨.code numeral.value :: codes.items,
              true, codes.rest⟩

/-
  Read the code points of an escape after its opening brace.
  None when no digit follows: then the escape means its
  letter.  `endsRange` says that the first code point ends a
  range, so that it cannot start another one.
-/
def readBracedCodes?
    (base : CodeBase)
    (allowRange endsRange : Bool)
    (text : List Char) :
    Except Refusal (Option Codes) := do
  let numeral ← takeCode base base.extendsFirst text
  if numeral.count = 0 then return none
  let codes ←
    readCodeItems base allowRange endsRange
      (text.length + 1) numeral.rest
  return some
    ⟨.code numeral.value :: codes.items,
      numeral.rest.head? != some '}', codes.rest⟩

------------------------------------------------------------
-- Raw Bytes
------------------------------------------------------------

/- The number of bytes that a first byte asks for. -/
def sequenceLength
    (byte : Nat) : Nat :=
  if byte < 0xC0 then 1
  else if byte < 0xE0 then 2
  else if byte < 0xF0 then 3
  else if byte < 0xF5 then 4
  else 1

/- A byte that continues a character. -/
def isContinuation
    (byte : Nat) : Bool :=
  0x80 ≤ byte && byte < 0xC0

def octalByte
    (value : Nat) : Nat :=
  value % 0x100

/- The bytes can stand for one character. -/
def areValidBytes : List Nat → Bool
  | first :: rest =>
      !isContinuation first && rest.all isContinuation
  | [] => false

/- The code point that a sequence of bytes stands for. -/
def bytesCode : List Nat → Nat
  | [] => 0
  | [byte] => byte
  | first :: rest =>
      rest.foldl (fun code byte => code * 64 + byte % 64)
        (first % Nat.pow 2 (6 - rest.length))

------------------------------------------------------------
-- Control and Meta Characters
------------------------------------------------------------

/- The code point that a letter after a backslash means. -/
def controlValue
    (c : Char) : Nat :=
  match c with
  | 'n' => 0x0A
  | 't' => 0x09
  | 'r' => 0x0D
  | 'f' => 0x0C
  | 'a' => 0x07
  | 'b' => 0x08
  | 'e' => 0x1B
  | 'v' => 0x0B
  | c => c.toNat

/- The control character for a code point. -/
def toControl
    (code : Nat) : Nat :=
  code &&& 0x9F

/- The meta character for a code point. -/
def toMeta
    (code : Nat) : Nat :=
  (code &&& 0xFF) ||| 0x80

/- Read what follows a backslash as a code point. -/
def readEscapedValue :
    List Char → Except Refusal (Nat × List Char)
  | [] => .error .endAtEscape
  | 'M' :: [] => .error .endAtMeta
  | 'M' :: '-' :: [] => .error .endAtMeta
  | 'M' :: '-' :: '\\' :: rest => do
      let (code, rest) ← readEscapedValue rest
      return (toMeta code, rest)
  | 'M' :: '-' :: c :: rest => .ok (toMeta c.toNat, rest)
  | 'M' :: _ :: _ => .error .invalidMeta
  | 'C' :: [] => .error .endAtControl
  | 'C' :: '-' :: [] => .error .endAtControl
  | 'C' :: '-' :: '?' :: rest => .ok (0x7F, rest)
  | 'C' :: '-' :: '\\' :: rest => do
      let (code, rest) ← readEscapedValue rest
      return (toControl code, rest)
  | 'C' :: '-' :: c :: rest => .ok (toControl c.toNat, rest)
  | 'C' :: _ :: _ => .error .invalidControl
  | 'c' :: [] => .error .endAtControl
  | 'c' :: '?' :: rest => .ok (0x7F, rest)
  | 'c' :: '\\' :: rest => do
      let (code, rest) ← readEscapedValue rest
      return (toControl code, rest)
  | 'c' :: c :: rest => .ok (toControl c.toNat, rest)
  | c :: rest => .ok (controlValue c, rest)

end Oniguruma

end TextMate
