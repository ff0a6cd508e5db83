import TextMate.Oniguruma.Length

/-
  This file defines which patterns may stand in a look-behind.
  Look-ahead may not, a negative look-behind may only stand in
  another one, and a negative one may not capture.  What it
  matches may not be too long, and its leading repeats may not
  be all that there is of a branch.

  Key definitions include:
    * `Anchor.mayLookBehind`
    * `Node.cutsRange`
    * `isRefusedBehind`
    * `Node.reduceBehind`
    * `Node.vanishesBehind`
    * `Length.isAllowedBehind`
    * `checkLookBehinds`
-/

namespace TextMate

namespace Oniguruma

------------------------------------------------------------
-- Parts of a Look-Behind
------------------------------------------------------------

def Anchor.mayLookBehind : Anchor → Bool
  | .textEnd | .lastLineEnd => false
  | _ => true

def Look.mayLookBehind
    (negated : Bool) : Look → Bool
  | .behind => true
  | .notBehind => negated
  | .ahead | .notAhead => false

def Look.isBehind : Look → Bool
  | .behind | .notBehind => true
  | _ => false

/-
  Some directive in the part cuts the range of the search.
  Calls are not followed.
-/
mutual

def Node.cutsRange : Node → Bool
  | .directive effect => effect == .cutsRange
  | .look _ body => body.cutsRange
  | .group _ _ body => body.cutsRange
  | .atomic body => body.cutsRange
  | .scoped _ body => body.cutsRange
  | .conditional condition yes no =>
      condition.cutsRange || yes.cutsRange || no.cutsRange
  | .repeated _ body => body.cutsRange
  | .sequence items => anyCutsRange items
  | .alternatives branches => anyCutsRange branches
  | _ => false
termination_by structural x => x

/- Some directive in the parts cuts the range. -/
def anyCutsRange : List Node → Bool
  | [] => false
  | node :: rest => node.cutsRange || anyCutsRange rest
termination_by structural x => x

end

/-
  The part may not stand in a look-behind.  Of a group that is
  only called nothing but a cut of the range is refused.
-/
mutual

def isRefusedBehind
    (pattern : Settled)
    (negated : Bool) : Node → Bool
  | .anchor anchor => !anchor.mayLookBehind
  | .look look body =>
      !look.mayLookBehind negated ||
        isRefusedBehind pattern (look == .notBehind) body
  | .directive effect => effect == .cutsRange
  | .call target =>
      (pattern.called? target).any Node.cutsRange
  | .group _ _ body =>
      negated || isRefusedBehind pattern negated body
  | .atomic body => isRefusedBehind pattern negated body
  | .scoped _ body => isRefusedBehind pattern negated body
  | .conditional condition yes no =>
      isRefusedBehind pattern negated condition ||
        isRefusedBehind pattern negated yes ||
        isRefusedBehind pattern negated no
  | .repeated _ body => isRefusedBehind pattern negated body
  | .sequence items => anyRefusedBehind pattern negated items
  | .alternatives branches =>
      anyRefusedBehind pattern negated branches
  | _ => false
termination_by structural x => x

/- Some part may not stand in a look-behind. -/
def anyRefusedBehind
    (pattern : Settled)
    (negated : Bool) : List Node → Bool
  | [] => false
  | node :: rest =>
      isRefusedBehind pattern negated node ||
        anyRefusedBehind pattern negated rest
termination_by structural x => x

end

------------------------------------------------------------
-- Leading Repeats
------------------------------------------------------------

namespace Node

/-
  The number of bytes of a part that is one text, without a
  choice of cases.
-/
def textBytes? : Node → Option Nat
  | .empty => some 0
  | .text letters foldsCase =>
      if foldsCase && letters.any Letter.isCased then none
      else some (byteTotal letters)
  | _ => none

/- The most bytes of a text that a repeat is written out to. -/
def maxWrittenOut : Nat := 100

/-
  The part is one text, or a short text that is repeated a
  fixed number of times and is thus one text as well.
-/
def isOneText : Node → Bool
  | .repeated count body =>
      match count.fixed?, body.textBytes? with
      | some times, some bytes =>
          1 < times && times ≤ maxWrittenOut &&
            bytes * times ≤ maxWrittenOut
      | _, _ => false
  | node => node.textBytes?.isSome

/-
  A repeat of the part can be cut short at the start of a
  look-behind: the part is a text, a single character or a
  reference.
-/
def isReducible : Node → Bool
  | .set | .reference _ _ _ _ | .text [_] _ => true
  | node => node.isOneText

/-
  Cut leading repeats to their least number.  After one that
  is left out the next item is the first.
-/
def reduceItems : List Node → List Node
  | .repeated count body :: rest =>
      if body.isReducible then
        .repeated { count with high := some count.low } body ::
          (if count.low = 0 then reduceItems rest else rest)
      else .repeated count body :: rest
  | items => items

/- Cut the leading repeats of a branch. -/
def reduceBranch : Node → Node
  | .sequence items => .sequence (reduceItems items)
  | node => ofItems (reduceItems [node])

/-
  Cut the leading repeats of each branch of a look-behind.
  What they match beyond makes no difference.
-/
def reduceBehind : Node → Node
  | .alternatives branches =>
      .alternatives (branches.map reduceBranch)
  | node => node.reduceBranch

def isLeftOut : Node → Bool
  | .repeated count body =>
      body.isReducible && count.low == 0
  | _ => false

/- The branch is a row of repeats, all of them left out. -/
def isRowLeftOut : Node → Bool
  | .sequence items => items.all isLeftOut
  | _ => false

/-
  Some branch of a look-behind is left out altogether when its
  leading repeats are cut.  One that is a single repeat stays.
-/
def vanishesBehind : Node → Bool
  | .alternatives branches => branches.any isRowLeftOut
  | node => node.isRowLeftOut

end Node

------------------------------------------------------------
-- Look-Behinds of a Pattern
------------------------------------------------------------

/- A look-behind matches at most this many characters. -/
def maxLookBehind : Nat := 65535

/-
  A look-behind may have this length.  No limit applies to the
  greatest number when there is none.
-/
def Length.isAllowedBehind
    (length : Length) : Bool :=
  length.least ≤ maxLookBehind &&
    (length.most ≤ maxLookBehind || length.most = unbounded)

/-
  Check how much the body of a look-behind inside a group can
  match.
-/
def checkBehindLength
    (pattern : Settled)
    (around : Option Nat)
    (body : Node) : Measure Unit := do
  if body.vanishesBehind then throw .vanishingLookBehind
  let length ←
    lengthOf pattern (pattern.groups.length + 2)
      ⟨[], around, true⟩ body.reduceBehind
  if !length.isAllowedBehind then throw .invalidLookBehind

/-
  Check the look-behinds of a part inside a group, in order:
  the parts of each, then those inside it, then its length.  A
  group is passed after its body.
-/
mutual

def checkLookBehinds
    (pattern : Settled)
    (around : Option Nat) : Node → Measure Unit
  | .look look body => do
      if look.isBehind &&
          isRefusedBehind pattern (look == .notBehind) body then
        throw .invalidLookBehind
      checkLookBehinds pattern around body
      if look.isBehind then
        checkBehindLength pattern around body
  | .group number _ body => do
      checkLookBehinds pattern (some number) body
      modify fun lengths =>
        { lengths with passed := number :: lengths.passed }
  | .atomic body => checkLookBehinds pattern around body
  | .scoped _ body => checkLookBehinds pattern around body
  | .conditional condition yes no => do
      checkLookBehinds pattern around condition
      checkLookBehinds pattern around yes
      checkLookBehinds pattern around no
  | .repeated _ body => checkLookBehinds pattern around body
  | .sequence items =>
      checkAllLookBehinds pattern around items
  | .alternatives branches =>
      checkAllLookBehinds pattern around branches
  | _ => return ()
termination_by structural x => x

def checkAllLookBehinds
    (pattern : Settled)
    (around : Option Nat) : List Node → Measure Unit
  | [] => return ()
  | node :: rest => do
      checkLookBehinds pattern around node
      checkAllLookBehinds pattern around rest
termination_by structural x => x

end

def Settled.checkLookBehinds
    (pattern : Settled) : Except Refusal Unit :=
  (Oniguruma.checkLookBehinds pattern none pattern.root).run'
    ⟨[], []⟩

end Oniguruma

end TextMate
