import TextMate.Json.Binary64

/-
  This file defines the decimal text of a double precision
  number: the fewest digits that read back as the number, and
  among those the nearest.

  Key definitions include:
    * `Decimal`
    * `Binary64.reads`
    * `Binary64.shortest`
    * `Decimal.layout`
    * `Binary64.text`
-/

namespace TextMate

namespace Json

------------------------------------------------------------
-- Decimals
------------------------------------------------------------

/-
  The decimal `digits * 10 ^ (point - n)`, for a numeral of
  `n` digits: its point stands `point` places after the start.
-/
structure Decimal where
  digits : Nat
  point : Int
deriving DecidableEq

namespace Decimal

/- The digits of a number, most significant first. -/
def numeral
    (n : Nat) : List Char :=
  Nat.toDigits 10 n

/- Digits without the zeros at their end. -/
def trimZeros
    (digits : List Char) : List Char :=
  (digits.reverse.dropWhile (· == '0')).reverse

end Decimal

namespace Binary64

------------------------------------------------------------
-- Numbers That Read Back
------------------------------------------------------------

/-
  The interval of rationals that round to a magnitude, in
  quarters of its last binary place.
-/
def quarters
    (x : Binary64) : Nat × Nat :=
  let below :=
    if x.significand * 2 = significandBound ∧
        x.exponent > minExponent then 1
    else 2
  (4 * x.significand - below, 4 * x.significand + 2)

/- The rational `num / den` rounds to the magnitude of `x`. -/
def reads
    (x : Binary64)
    (num den : Nat) : Bool :=
  let (low, high) := x.quarters
  let (n, d) := scaleDown num den (x.exponent - 2)
  if x.significand % 2 = 0 then
    low * d ≤ n && n ≤ high * d
  else
    low * d < n && n < high * d

/-
  The place of the decimal point in front of which the first
  significant digit stands: the power of ten above `num / den`.
-/
def pointOf
    (num den : Nat) : Int :=
  if den ≤ num then
    ((Decimal.numeral (num / den)).length : Int)
  else
    let length := (Decimal.numeral (den / num)).length
    if num * Nat.pow 10 (length - 1) = den then
      2 - (length : Int)
    else
      1 - (length : Int)

/- The fraction `n * 10 ^ e`. -/
def decimalFraction
    (n : Nat)
    (e : Int) : Nat × Nat :=
  match e with
  | .ofNat k => (n * Nat.pow 10 k, 1)
  | .negSucc k => (n, Nat.pow 10 (k + 1))

/-
  The decimal nearest to `num / den` among its two neighbours
  with the given number of digits, if one of them reads back.
-/
def neighbour?
    (x : Binary64)
    (num den : Nat)
    (point : Int)
    (count : Nat) : Option Nat :=
  let e := point - (count : Int)
  let (unitNum, unitDen) := decimalFraction 1 e
  let n := num * unitDen
  let d := den * unitNum
  let below := n / d
  let hits (k : Nat) : Bool :=
    let (a, b) := decimalFraction k e
    x.reads a b
  match hits below, hits (below + 1) with
  | true, true => some (divNearest n d)
  | true, false => some below
  | false, true => some (below + 1)
  | false, false => none

/- The greatest number of digits that is ever needed. -/
def maxDigits : Nat := 17

/-
  The shortest decimal that reads back as the magnitude, from
  `count` digits on.
-/
def shortestFrom
    (x : Binary64)
    (num den : Nat)
    (point : Int)
    (count : Nat) : Nat → Decimal
  | 0 => ⟨num * Nat.pow 10 maxDigits / den, point⟩
  | fuel + 1 =>
      match x.neighbour? num den point count with
      | some digits =>
          if Nat.pow 10 count ≤ digits then ⟨digits, point + 1⟩
          else ⟨digits, point⟩
      | none =>
          shortestFrom x num den point (count + 1) fuel

/- The shortest decimal that reads back as the magnitude. -/
def shortest
    (x : Binary64) : Decimal :=
  let (num, den) := x.fraction
  shortestFrom x num den (pointOf num den) 1 maxDigits

end Binary64

------------------------------------------------------------
-- Layout
------------------------------------------------------------

namespace Decimal

/- The exponents of ten that are written with a plain point. -/
def isPlain
    (point : Int) : Bool :=
  -5 < point && point ≤ 16

/- Zeros in a row. -/
def zeros
    (n : Nat) : List Char :=
  List.replicate n '0'

/-
  Plain notation, with at least one digit on each side of the
  point.
-/
def plain
    (digits : List Char)
    (point : Int) : List Char :=
  match point with
  | .ofNat (n + 1) =>
      let whole := digits.take (n + 1)
      let rest := digits.drop (n + 1)
      whole ++ zeros (n + 1 - whole.length) ++ '.' ::
        (if rest.isEmpty then ['0'] else rest)
  | point => '0' :: '.' :: zeros (-point).toNat ++ digits

/- Scientific notation, with a sign on every exponent. -/
def scientific
    (digits : List Char)
    (point : Int) : List Char :=
  let exponent := point - 1
  let mark :=
    if exponent < 0 then ['e', '-'] else ['e', '+']
  let mantissa :=
    match digits with
    | first :: second :: rest =>
        first :: '.' :: second :: rest
    | digits => digits
  mantissa ++ mark ++ numeral exponent.natAbs

def layout
    (decimal : Decimal) : List Char :=
  let digits := trimZeros (numeral decimal.digits)
  if isPlain decimal.point then plain digits decimal.point
  else scientific digits decimal.point

end Decimal

/- The text of a double precision number. -/
def Binary64.text
    (x : Binary64) : List Char :=
  let magnitude :=
    if x.isZero then ['0', '.', '0']
    else x.shortest.layout
  if x.negative then '-' :: magnitude else magnitude

end Json

end TextMate
