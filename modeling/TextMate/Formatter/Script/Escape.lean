import TextMate.Text.Utf8

/-
  This file defines the bytes of a text in which backslashes
  stand in front of letters and of octal numbers.

  In a printed text, as opposed to a format, an octal number
  may have a zero before its three digits, and the letter c
  ends the text.

  Key definitions include:
    * `Escape.step`
    * `unescape`
    * `endsEarly`
-/

namespace TextMate

namespace Script

namespace Escape

/-
  What the next character is part of.  An octal number has its
  value and the number of digits that may follow.
-/
inductive Mode where
  | plain
  | escaped
  | octal (left : Nat) (value : Nat)
  | stopped
deriving DecidableEq

def octalDigit?
    (c : Char) : Option Nat :=
  if '0' ≤ c && c ≤ '7' then some (c.toNat - '0'.toNat)
  else none

def charBytes
    (c : Char) : List UInt8 :=
  String.utf8EncodeChar c

def letterBytes
    (c : Char) : List UInt8 :=
  match c with
  | 'a' => [7]
  | 'b' => [8]
  | 't' => [9]
  | 'n' => [10]
  | 'v' => [11]
  | 'f' => [12]
  | 'r' => [13]
  | '\\' => [92]
  | c => 92 :: charBytes c

/- Read a character that follows no backslash. -/
def plainStep
    (c : Char) : List UInt8 × Mode :=
  if c = '\\' then ([], .escaped) else (charBytes c, .plain)

/- Read a character after a backslash. -/
def escapedStep
    (isText : Bool)
    (c : Char) : List UInt8 × Mode :=
  match octalDigit? c with
  | some digit =>
      ([], .octal (if isText && digit = 0 then 3 else 2) digit)
  | none =>
      if isText && c = 'c' then ([], .stopped)
      else (letterBytes c, .plain)

/- Read a character. -/
def step
    (isText : Bool)
    (mode : Mode)
    (c : Char) : List UInt8 × Mode :=
  match mode with
  | .plain => plainStep c
  | .escaped => escapedStep isText c
  | .stopped => ([], .stopped)
  | .octal left value =>
      match octalDigit? c, left with
      | some digit, left + 1 =>
          ([], .octal left (value * 8 + digit))
      | _, _ =>
          let (found, mode) := plainStep c
          (value.toUInt8 :: found, mode)

/- The bytes of what is begun at the end of a text. -/
def Mode.finish : Mode → List UInt8
  | .plain | .stopped => []
  | .escaped => [92]
  | .octal _ value => [value.toUInt8]

def bytesFrom
    (isText : Bool)
    (mode : Mode) : List Char → List UInt8
  | [] => mode.finish
  | c :: rest =>
      let (found, mode) := step isText mode c
      found ++ bytesFrom isText mode rest

end Escape

/- The bytes of a text or format whose escapes are replaced. -/
def unescape
    (isText : Bool)
    (text : List Char) : List UInt8 :=
  Escape.bytesFrom isText .plain text

/- A printed text is ended by one of its escapes. -/
def endsEarly
    (text : List Char) : Bool :=
  (text.foldl (fun mode c => (Escape.step true mode c).2)
    .plain) == .stopped

end Script

end TextMate
