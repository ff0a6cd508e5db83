import TextMate.Oniguruma.Reference

/-
  This file defines how many characters a part of a pattern
  can match: the least number and the most.  Great numbers
  count as unbounded.

  The length of a group is kept once it was found.  It is not
  known for a group that is still open, nor for a call that
  leads back to itself.

  Key definitions include:
    * `unbounded`
    * `Length`
    * `Lengths`
    * `Place`
    * `lengthOf`
-/

namespace TextMate

namespace Oniguruma

------------------------------------------------------------
-- Numbers of Characters
------------------------------------------------------------

/- The number that stands for any great number. -/
def unbounded : Nat := Nat.pow 2 32 - 1

/- The number of characters of two parts in a row. -/
def countBoth
    (first second : Nat) : Nat :=
  min (first + second) unbounded

/- The number of characters of a part that is repeated. -/
def countTimes
    (one times : Nat) : Nat :=
  if times = 0 then 0
  else if one < unbounded / times then one * times
  else unbounded

/- The least and the greatest number of characters. -/
structure Length where
  least : Nat
  most : Nat
deriving DecidableEq

namespace Length

/- The length of a part that matches a fixed number. -/
def exactly
    (count : Nat) : Length :=
  ⟨count, count⟩

/- The length of a part of which nothing is known. -/
def unknown : Length := ⟨0, unbounded⟩

/- The length of two parts in a row. -/
def append
    (first second : Length) : Length :=
  ⟨countBoth first.least second.least,
    countBoth first.most second.most⟩

def orElse
    (first second : Length) : Length :=
  ⟨min first.least second.least,
    max first.most second.most⟩

/- The length of one of several parts. -/
def choose : List Length → Length
  | [] => exactly 0
  | first :: rest => rest.foldl orElse first

/- The length of a part that is repeated. -/
def times
    (length : Length)
    (count : Repeat) : Length :=
  ⟨countTimes length.least count.low,
    match count.high with
    | some high => countTimes length.most high
    | none => unbounded⟩

end Length

------------------------------------------------------------
-- Lengths of Parts
------------------------------------------------------------

/-
  What is known of groups: those that were passed on the way
  through the pattern, and the lengths that were found.
-/
structure Lengths where
  passed : List Nat
  found : List (Nat × Length)

/- A step that finds lengths. -/
abbrev Measure := StateT Lengths (Except Refusal)

/-
  Where a part stands: the groups that were opened on the way
  to it, the group around it, and whether it was passed.
-/
structure Place where
  opened : List Nat
  around : Option Nat
  isPassed : Bool

def Place.enter
    (place : Place)
    (group : Nat)
    (isPassed : Bool) : Place :=
  ⟨group :: place.opened, some group, isPassed⟩

/-
  Find how many characters a part matches.  A text that folds
  its case has no length before it was passed.  `fuel`
  bounds how many groups are entered from one another.
-/
mutual

def lengthOf
    (pattern : Settled)
    (fuel : Nat)
    (place : Place)
    (node : Node) : Measure Length :=
  match node with
  | .text letters foldsCase =>
      if foldsCase && !place.isPassed then
        throw .invalidLookBehind
      else return .exactly letters.length
  | .set => return .exactly 1
  | .reference groups _ isTest inside =>
      if isTest || inside then return .exactly 0
      else
        match fuel with
        | 0 => return .unknown
        | fuel + 1 => do
            let lengths ←
              lengthsOf pattern fuel
                { place with isPassed := false }
                (pattern.groupsAt groups)
            return Length.choose lengths
  | .call target =>
      match fuel, target.group? pattern with
      | fuel + 1, some group =>
          if pattern.callsBack place.around group then
            return .unknown
          else
            match pattern.group? group with
            | some node =>
                lengthOf pattern fuel
                  { place with isPassed := false } node
            | none => return .unknown
      | _, _ => return .unknown
  | .group number _ body => do
      match List.lookup number (← get).found with
      | some length => return length
      | none =>
          if place.opened.contains number then return .unknown
          else
            let isPassed :=
              place.isPassed ||
                (← get).passed.contains number
            let length ←
              lengthOf pattern fuel
                (place.enter number isPassed) body
            modify fun lengths =>
              { lengths with
                found := (number, length) :: lengths.found }
            return length
  | .atomic body => lengthOf pattern fuel place body
  | .scoped _ body => lengthOf pattern fuel place body
  | .conditional condition yes no => do
      let condition ← lengthOf pattern fuel place condition
      let yes ← lengthOf pattern fuel place yes
      let no ← lengthOf pattern fuel place no
      return (condition.append yes).orElse no
  | .repeated count body =>
      if count.fixed? = some 0 then return .exactly 0
      else do
        let length ← lengthOf pattern fuel place body
        return length.times count
  | .sequence items => do
      let lengths ← lengthsOf pattern fuel place items
      return lengths.foldl Length.append (.exactly 0)
  | .alternatives branches => do
      let lengths ← lengthsOf pattern fuel place branches
      return Length.choose lengths
  | _ => return .exactly 0
termination_by (fuel, sizeOf node)

/- Find how many characters each part matches. -/
def lengthsOf
    (pattern : Settled)
    (fuel : Nat)
    (place : Place)
    (nodes : List Node) : Measure (List Length) :=
  match nodes with
  | [] => return []
  | node :: rest => do
      let length ← lengthOf pattern fuel place node
      let lengths ← lengthsOf pattern fuel place rest
      return length :: lengths
termination_by (fuel, sizeOf nodes)

end

end Oniguruma

end TextMate
