import TextMate.Oniguruma.Refusal

/-
  This file defines how often a part of a pattern may be
  repeated, and what becomes of a repeat of a repeat.

  Repeats of the plain kinds, such as a star after a question
  mark, are joined by a table.  Two repeats that each happen a
  fixed number of times are multiplied.

  Key definitions include:
    * `Repeat`
    * `Repeat.Kind`
    * `Repeat.around`
    * `Repeat.join`
-/

namespace TextMate

namespace Oniguruma

/- How often a part is repeated, and if as seldom as it can. -/
structure Repeat where
  low : Nat
  high : Option Nat
  isLazy : Bool
deriving DecidableEq

namespace Repeat

------------------------------------------------------------
-- Kinds
------------------------------------------------------------

/- The plain kinds of repeats. -/
inductive Kind where
  | optional
  | star
  | plus
  | lazyOptional
  | lazyStar
  | lazyPlus
deriving DecidableEq

def Kind.times : Kind → Repeat
  | .optional => ⟨0, some 1, false⟩
  | .star => ⟨0, none, false⟩
  | .plus => ⟨1, none, false⟩
  | .lazyOptional => ⟨0, some 1, true⟩
  | .lazyStar => ⟨0, none, true⟩
  | .lazyPlus => ⟨1, none, true⟩

def kind? : Repeat → Option Kind
  | ⟨0, some 1, false⟩ => some .optional
  | ⟨0, none, false⟩ => some .star
  | ⟨1, none, false⟩ => some .plus
  | ⟨0, some 1, true⟩ => some .lazyOptional
  | ⟨0, none, true⟩ => some .lazyStar
  | ⟨1, none, true⟩ => some .lazyPlus
  | _ => none

------------------------------------------------------------
-- Repeats of Repeats
------------------------------------------------------------

/-
  What becomes of a repeat of a repeat: they stay apart, one
  repeat does for both, or two others take their place.
-/
inductive Joined where
  | apart
  | one (both : Repeat)
  | two (outer inner : Repeat)
deriving DecidableEq

/- What becomes of a repeat of a plain kind over another. -/
def Kind.join
    (outer inner : Kind) : Joined :=
  match inner, outer with
  | .optional, .optional => .one inner.times
  | .optional, .star => .one Kind.star.times
  | .optional, .plus => .one Kind.star.times
  | .optional, .lazyOptional => .one Kind.lazyOptional.times
  | .optional, .lazyStar => .one Kind.lazyStar.times
  | .optional, .lazyPlus => .apart
  | .star, .lazyOptional | .star, .lazyStar
  | .plus, .lazyStar =>
      .two Kind.lazyOptional.times Kind.plus.times
  | .plus, .optional | .plus, .star => .one Kind.star.times
  | .plus, .lazyOptional => .apart
  | .lazyOptional, .star | .lazyOptional, .plus
  | .lazyOptional, .lazyStar | .lazyOptional, .lazyPlus =>
      .one Kind.lazyStar.times
  | .lazyPlus, .optional => .apart
  | .lazyPlus, .star => .one Kind.star.times
  | .lazyPlus, .lazyOptional | .lazyPlus, .lazyStar =>
      .one Kind.lazyStar.times
  | _, _ => .one inner.times

/- The number of times, when it is fixed. -/
def fixed?
    (count : Repeat) : Option Nat :=
  if count.high = some count.low then some count.low else none

/- Products of repeats stay below this number. -/
def productLimit : Nat := Nat.pow 2 31 - 1

/- How often a part is repeated by two fixed repeats. -/
def multiply
    (outer inner : Nat) : Except Refusal Nat :=
  if outer = 0 || inner = 0 then .ok 0
  else if outer < productLimit / inner then .ok (outer * inner)
  else .error .repeatTooBig

/- What becomes of a repeat over another one. -/
def join
    (outer inner : Repeat) : Except Refusal Joined :=
  match outer.kind?, inner.kind? with
  | some outerKind, some innerKind =>
      .ok (outerKind.join innerKind)
  | _, _ =>
      match outer.fixed?, inner.fixed? with
      | some times, some innerTimes =>
          (multiply times innerTimes).map fun n =>
            .one ⟨n, some n, outer.isLazy⟩
      | _, _ => .ok .apart

/-
  A repeat as it is when its part is repeated already.  After
  a star or a plus, a greedy repeat needs no more than its
  least number of times.
-/
def around
    (outer inner : Repeat) : Repeat :=
  let isOpen :=
    inner.kind? = some .star || inner.kind? = some .plus
  match outer.kind?, outer.high with
  | none, some high =>
      if isOpen && 1 < high && !outer.isLazy then
        { outer with high := some (max 1 outer.low) }
      else outer
  | _, _ => outer

end Repeat

end Oniguruma

end TextMate
