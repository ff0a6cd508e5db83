/-
  This file defines double precision numbers as exact dyadic
  values, with the arithmetic needed to read a decimal text.

  Each operation computes its exact rational result in `Nat`
  and rounds it once, to the nearest representable value and
  to an even significand when two are equally near.

  Key definitions include:
    * `Binary64`
    * `Binary64.nearest?`
    * `Binary64.ofNat`
    * `Binary64.mul?`
    * `Binary64.div?`
    * `Binary64.ofParts?`
-/

namespace TextMate

namespace Json

------------------------------------------------------------
-- Values
------------------------------------------------------------

/-
  A finite number, equal to `significand * 2 ^ exponent` up
  to its sign.  The exponent is the least possible one.
-/
structure Binary64 where
  negative : Bool
  significand : Nat
  exponent : Int
deriving DecidableEq, Inhabited

namespace Binary64

/- The exponent of the smallest positive number. -/
def minExponent : Int := -1074

/- The exponent of the largest finite number. -/
def maxExponent : Int := 971

/- The number of values that a significand can take. -/
def significandBound : Nat := Nat.pow 2 53

/- The positive or negative zero. -/
def zero
    (negative : Bool) : Binary64 :=
  ⟨negative, 0, minExponent⟩

/- The number is a zero of either sign. -/
def isZero
    (x : Binary64) : Bool :=
  x.significand == 0

/- Give a number the wanted sign. -/
def withSign
    (x : Binary64)
    (negative : Bool) : Binary64 :=
  { x with negative := negative }

/- Numeric equality, for which both zeros are the same. -/
def sameValue
    (x y : Binary64) : Bool :=
  x == y || (x.isZero && y.isZero)

------------------------------------------------------------
-- Rounding
------------------------------------------------------------

/- The quotient rounded to nearest, a half going to even. -/
def divNearest
    (num den : Nat) : Nat :=
  let quotient := num / den
  let twice := 2 * (num % den)
  if twice < den then quotient
  else if twice = den then quotient + quotient % 2
  else quotient + 1

/- The quotient `num / (den * 2 ^ e)` as a pair. -/
def scaleDown
    (num den : Nat)
    (e : Int) : Nat × Nat :=
  match e with
  | .ofNat n => (num, den * Nat.pow 2 n)
  | .negSucc n => (num * Nat.pow 2 (n + 1), den)

/-
  The exponent at which the quotient has a significand of 53
  bits, or the least exponent for a smaller quotient.
-/
def exponentFor
    (num den : Nat) : Int :=
  let guess :=
    (Nat.log2 num : Int) - (Nat.log2 den : Int) - 53
  let (n, d) := scaleDown num den guess
  let exact :=
    if n / d < significandBound then guess else guess + 1
  max exact minExponent

/-
  The number nearest to `num / den`, or nothing when it is
  beyond the largest finite number.
-/
def nearest?
    (num den : Nat) : Option Binary64 :=
  if num = 0 then some (zero false)
  else
    let e := exponentFor num den
    let (n, d) := scaleDown num den e
    let m := divNearest n d
    let (m, e) :=
      if m = significandBound then (m / 2, e + 1) else (m, e)
    if e > maxExponent then none else some ⟨false, m, e⟩

/- The magnitude of a number as a fraction. -/
def fraction
    (x : Binary64) : Nat × Nat :=
  match x.exponent with
  | .ofNat n => (x.significand * Nat.pow 2 n, 1)
  | .negSucc n => (x.significand, Nat.pow 2 (n + 1))

------------------------------------------------------------
-- Arithmetic
------------------------------------------------------------

/- The number nearest to a natural number below `2 ^ 64`. -/
def ofNat
    (n : Nat) : Binary64 :=
  (nearest? n 1).getD (zero false)

/- The product of two magnitudes. -/
def mul?
    (x y : Binary64) : Option Binary64 :=
  let (a, b) := x.fraction
  let (c, d) := y.fraction
  nearest? (a * c) (b * d)

/- The quotient of two magnitudes. -/
def div?
    (x y : Binary64) : Option Binary64 :=
  let (a, b) := x.fraction
  let (c, d) := y.fraction
  nearest? (a * d) (b * c)

/- The largest power of ten that has a number of its own. -/
def maxPower : Nat := 308

/- The number nearest to a power of ten. -/
def powerOfTen
    (n : Nat) : Binary64 :=
  (nearest? (Nat.pow 10 n) 1).getD (zero false)

/-
  Divide by a power of ten, in steps of at most `maxPower`.
  A quotient that has become zero stays so.
-/
def divPower
    (x : Binary64)
    (n : Nat) : Binary64 :=
  if n ≤ maxPower then
    (div? x (powerOfTen n)).getD (zero false)
  else if x.isZero then x
  else
    divPower
      ((div? x (powerOfTen maxPower)).getD (zero false))
      (n - maxPower)
termination_by n
decreasing_by
  simp only [maxPower] at *
  omega

/-
  The number denoted by a decimal significand and exponent,
  rounded once for the significand and once for each power of
  ten.  Nothing when it is beyond the largest finite number.
-/
def ofParts?
    (negative : Bool)
    (significand : Nat)
    (exponent : Int) : Option Binary64 :=
  let x := ofNat significand
  let magnitude :=
    match exponent with
    | .ofNat n =>
        if n ≤ maxPower then mul? x (powerOfTen n)
        else if x.isZero then some x
        else none
    | .negSucc n => some (divPower x (n + 1))
  magnitude.map (withSign · negative)

end Binary64

end Json

end TextMate
