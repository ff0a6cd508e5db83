import TextMate.Text.Word

/-
  This file defines how scripts write numbers, and the range
  of the numbers that they can count with.

  Key definitions include:
    * `Number.wrap`
    * `Number.clamp`
    * `Number.takeUnsigned`
-/

namespace TextMate

namespace Script

namespace Number

------------------------------------------------------------
-- Range
------------------------------------------------------------

/- The number of values that a number can have. -/
def wordSize : Nat := Nat.pow 2 64

/- A number that is brought into the range of numbers. -/
def wrap
    (number : Int) : Int :=
  number.bmod wordSize

def greatest : Nat := Nat.pow 2 63 - 1

/- The number of the range that is nearest to a number. -/
def clamp
    (number : Int) : Int :=
  max (-greatest - 1) (min number greatest)

------------------------------------------------------------
-- Digits
------------------------------------------------------------

/- The value of digits of a base, and what follows them. -/
def takeNumber
    (base : Nat) : Nat → List Char → Nat × List Char
  | value, [] => (value, [])
  | value, c :: rest =>
      match Text.hexValue? c with
      | some digit =>
          if digit < base then
            takeNumber base (value * base + digit) rest
          else (value, c :: rest)
      | none => (value, c :: rest)

/-
  The value of a number without sign, and what follows it.
  The start of a number tells its base.
-/
def takeUnsigned
    (text : List Char) : Nat × List Char :=
  let isHex (rest : List Char) : Bool :=
    rest.head?.any fun c => (Text.hexValue? c).isSome
  match text with
  | '0' :: x :: rest =>
      if (x = 'x' || x = 'X') && isHex rest then
        takeNumber 16 0 rest
      else takeNumber 8 0 (x :: rest)
  | text => takeNumber 10 0 text

end Number

end Script

end TextMate
