/-
  This file defines sets of characters given by ranges of
  code points.

  Key definitions include:
    * `Ranges`
    * `Ranges.includes`
    * `Ranges.contains`
-/

namespace TextMate

namespace Text

/- Ranges of code points, each with its first and last. -/
abbrev Ranges := List (Nat × Nat)

/- A code point lies in one of the ranges. -/
def Ranges.includes
    (ranges : Ranges)
    (code : Nat) : Bool :=
  ranges.any fun (low, high) => low ≤ code && code ≤ high

/- A character lies in one of the ranges. -/
def Ranges.contains
    (ranges : Ranges)
    (c : Char) : Bool :=
  ranges.includes c.toNat

end Text

end TextMate
