import TextMate.Oniguruma.Reference

/-
  This file defines which patterns call a group without end:
  a called group whose body always calls it again, or calls it
  again before anything was matched.

  Key definitions include:
    * `isEmptyMatch`
    * `Recursion`
    * `recursionOf`
    * `hasEndlessRecursion`
-/

namespace TextMate

namespace Oniguruma

------------------------------------------------------------
-- Empty Matches
------------------------------------------------------------

/-
  Whether groups can match the empty text, as far as it has
  been found out.  An answer is kept once it was given.
-/
abbrev EmptyMatches := List (Nat × Bool)

/-
  The part can match the empty text.  A group that is open is
  taken to do so, and a call that leads back to itself unless
  something else is known of its group.  `around` is the group
  around the part.  `fuel` bounds how many groups are entered
  from one another.
-/
mutual

def isEmptyMatch
    (pattern : Settled)
    (fuel : Nat)
    (opened : List Nat)
    (around : Option Nat)
    (node : Node) : StateM EmptyMatches Bool :=
  match node with
  | .text letters _ => return letters.isEmpty
  | .set => return false
  | .directive .fail => return false
  | .reference groups _ isTest inside =>
      if isTest || inside then return true
      else
        match fuel with
        | 0 => return true
        | fuel + 1 =>
            anyEmpty pattern fuel opened around
              (pattern.groupsAt groups)
  | .call target =>
      match fuel, target.group? pattern with
      | fuel + 1, some number =>
          if pattern.callsBack around number then
            return (List.lookup number (← get)).getD true
          else
            match pattern.group? number with
            | some group =>
                isEmptyMatch pattern fuel opened around group
            | none => return true
      | _, _ => return true
  | .group number _ body => do
      match List.lookup number (← get) with
      | some known => return known
      | none =>
          if opened.contains number then return true
          else
            let empty ←
              isEmptyMatch pattern fuel (number :: opened)
                (some number) body
            modify ((number, empty) :: ·)
            return empty
  | .atomic body => isEmptyMatch pattern fuel opened around body
  | .scoped _ body => isEmptyMatch pattern fuel opened around body
  | .conditional condition yes no => do
      let condition ←
        isEmptyMatch pattern fuel opened around condition
      let yes ← isEmptyMatch pattern fuel opened around yes
      let no ← isEmptyMatch pattern fuel opened around no
      return no || (condition && yes)
  | .repeated count body =>
      if count.low = 0 then return true
      else isEmptyMatch pattern fuel opened around body
  | .sequence items => allEmpty pattern fuel opened around items
  | .alternatives branches =>
      anyEmpty pattern fuel opened around branches
  | _ => return true
termination_by (fuel, sizeOf node)

/- Every part can match the empty text. -/
def allEmpty
    (pattern : Settled)
    (fuel : Nat)
    (opened : List Nat)
    (around : Option Nat)
    (nodes : List Node) : StateM EmptyMatches Bool :=
  match nodes with
  | [] => return true
  | node :: rest => do
      let first ← isEmptyMatch pattern fuel opened around node
      let others ← allEmpty pattern fuel opened around rest
      return first && others
termination_by (fuel, sizeOf nodes)

/- Some part can match the empty text. -/
def anyEmpty
    (pattern : Settled)
    (fuel : Nat)
    (opened : List Nat)
    (around : Option Nat)
    (nodes : List Node) : StateM EmptyMatches Bool :=
  match nodes with
  | [] => return false
  | node :: rest => do
      let first ← isEmptyMatch pattern fuel opened around node
      let others ← anyEmpty pattern fuel opened around rest
      return first || others
termination_by (fuel, sizeOf nodes)

end

------------------------------------------------------------
-- Recursion
------------------------------------------------------------

/-
  How a part leads back to a group: not at all or only on some
  way, always, or before anything was matched.
-/
inductive Recursion where
  | avoidable
  | certain
  | immediate
deriving DecidableEq

/-
  How a part leads back to the group `origin`.  `entered`
  holds the groups that were entered on the way, and `atHead`
  says that nothing was matched yet.
-/
mutual

def recursionOf
    (pattern : Settled)
    (origin : Nat)
    (fuel : Nat)
    (entered : List Nat)
    (around : Option Nat)
    (atHead : Bool)
    (node : Node) : StateM EmptyMatches Recursion :=
  match node with
  | .look _ body =>
      recursionOf pattern origin fuel entered around atHead body
  | .call target =>
      match fuel, pattern.called? target with
      | fuel + 1, some group =>
          recursionOf pattern origin fuel entered around atHead group
      | _, _ => return .avoidable
  | .group number _ body =>
      if entered.contains number then return .avoidable
      else if number = origin then
        return if atHead then .immediate else .certain
      else
        recursionOf pattern origin fuel (number :: entered)
          (some number) atHead body
  | .atomic body =>
      recursionOf pattern origin fuel entered around atHead body
  | .scoped _ body =>
      recursionOf pattern origin fuel entered around atHead body
  | .conditional condition yes no => do
      let first ←
        recursionOf pattern origin fuel entered around atHead
          condition
      if first = .immediate then return .immediate
      let stillHead ←
        if atHead then
          isEmptyMatch pattern (pattern.groupCount + 2)
            [origin] around condition
        else pure false
      let second ←
        recursionOf pattern origin fuel entered around stillHead yes
      if second = .immediate then return .immediate
      let other ←
        recursionOf pattern origin fuel entered around atHead no
      if other = .immediate then return .immediate
      if other = .certain &&
          (first = .certain || second = .certain) then
        return .certain
      else return .avoidable
  | .repeated count body => do
      if count.high = some 0 then return .avoidable
      let result ←
        recursionOf pattern origin fuel entered around atHead body
      if result = .certain && count.low = 0 then return .avoidable
      return result
  | .sequence items =>
      sequenceRecursion pattern origin fuel entered around atHead
        .avoidable items
  | .alternatives branches =>
      choiceRecursion pattern origin fuel entered around atHead
        .certain branches
  | _ => return .avoidable
termination_by (fuel, sizeOf node)

/- How a row of items leads back, given the items before. -/
def sequenceRecursion
    (pattern : Settled)
    (origin : Nat)
    (fuel : Nat)
    (entered : List Nat)
    (around : Option Nat)
    (atHead : Bool)
    (before : Recursion)
    (nodes : List Node) : StateM EmptyMatches Recursion :=
  match nodes with
  | [] => return before
  | node :: rest => do
      let result ←
        recursionOf pattern origin fuel entered around atHead node
      if result = .immediate then return .immediate
      let stillHead ←
        if atHead then
          isEmptyMatch pattern (pattern.groupCount + 2)
            [origin] around node
        else pure false
      let before :=
        if result = .certain then .certain else before
      sequenceRecursion pattern origin fuel entered around stillHead
        before rest
termination_by (fuel, sizeOf nodes)

/- How a choice leads back, given the branches before. -/
def choiceRecursion
    (pattern : Settled)
    (origin : Nat)
    (fuel : Nat)
    (entered : List Nat)
    (around : Option Nat)
    (atHead : Bool)
    (before : Recursion)
    (nodes : List Node) : StateM EmptyMatches Recursion :=
  match nodes with
  | [] => return before
  | node :: rest => do
      let result ←
        recursionOf pattern origin fuel entered around atHead node
      if result = .immediate then return .immediate
      let before :=
        if result = .certain then before else .avoidable
      choiceRecursion pattern origin fuel entered around atHead
        before rest
termination_by (fuel, sizeOf nodes)

end

/- Find the first group that is called without end. -/
def anyEndless
    (pattern : Settled)
    (called : List Nat) :
    List Node → StateM EmptyMatches Bool
  | [] => return false
  | .group number _ body :: rest => do
      if called.contains number then
        let result ←
          recursionOf pattern number (pattern.groupCount + 2)
            [] (some number) true body
        if result = .avoidable then
          anyEndless pattern called rest
        else return true
      else anyEndless pattern called rest
  | _ :: rest => anyEndless pattern called rest

/- Some group of the pattern is called without end. -/
def hasEndlessRecursion
    (pattern : Settled) : Bool :=
  (anyEndless pattern (calledGroups pattern)
    (pattern.groups.map Prod.snd)).run [] |>.1

end Oniguruma

end TextMate
