import TextMate.Oniguruma.Parser

/-
  This file defines which references and calls of a pattern
  have a group that they can mean.

  In a pattern with named groups the other groups capture
  nothing, and nothing can be named by a number.

  Key definitions include:
    * `Node.dropUnnamed`
    * `Node.references`
    * `Node.calls`
    * `Settled`
    * `settle`
    * `checkReferences`
    * `CallTarget.resolve`
    * `checkCalls`
    * `Settled.callsBack`
-/

namespace TextMate

namespace Oniguruma

------------------------------------------------------------
-- Unnamed Groups
------------------------------------------------------------

/- The part is a group without a name. -/
def Node.isUnnamed : Node → Bool
  | .group _ isNamed _ => !isNamed
  | _ => false

/-
  Replace groups without a name by their bodies.  A repeat of
  such a group is joined with the repeat in it.
-/
mutual

def Node.dropUnnamed : Node → Except Refusal Node
  | .look look body => body.dropUnnamed.map (.look look)
  | .group number isNamed body =>
      body.dropUnnamed.map fun body =>
        if isNamed then .group number true body else body
  | .atomic body => body.dropUnnamed.map .atomic
  | .scoped isWhole body =>
      body.dropUnnamed.map (.scoped isWhole)
  | .conditional condition yes no => do
      let condition ← condition.dropUnnamed
      let yes ← yes.dropUnnamed
      return .conditional condition yes (← no.dropUnnamed)
  | .repeated count body =>
      body.dropUnnamed.bind fun dropped =>
        if body.isUnnamed then Node.joinRepeat count dropped
        else .ok (.repeated count dropped)
  | .sequence items => (dropUnnamedAll items).map .sequence
  | .alternatives branches =>
      (dropUnnamedAll branches).map .alternatives
  | node => .ok node
termination_by structural x => x

/- Replace groups without a name in each part. -/
def dropUnnamedAll :
    List Node → Except Refusal (List Node)
  | [] => .ok []
  | node :: rest => do
      let node ← node.dropUnnamed
      return node :: (← dropUnnamedAll rest)
termination_by structural x => x

end

------------------------------------------------------------
-- Parts of a Pattern
------------------------------------------------------------

structure Reference where
  groups : List Nat
  byName : Bool

/- The references of a pattern. -/
mutual

def Node.references : Node → List Reference
  | .reference groups byName _ _ => [⟨groups, byName⟩]
  | .look _ body => body.references
  | .group _ _ body => body.references
  | .atomic body => body.references
  | .scoped _ body => body.references
  | .conditional condition yes no =>
      condition.references ++ yes.references ++ no.references
  | .repeated _ body => body.references
  | .sequence items => referencesAll items
  | .alternatives branches => referencesAll branches
  | _ => []
termination_by structural x => x

/- The references of several parts. -/
def referencesAll : List Node → List Reference
  | [] => []
  | node :: rest => node.references ++ referencesAll rest
termination_by structural x => x

end

/-
  The calls of a pattern in order.  When `liveOnly` is set,
  those under a repeat that never happens are left out.
-/
mutual

def Node.calls
    (liveOnly : Bool) : Node → List CallTarget
  | .call target => [target]
  | .look _ body => body.calls liveOnly
  | .group _ _ body => body.calls liveOnly
  | .atomic body => body.calls liveOnly
  | .scoped _ body => body.calls liveOnly
  | .conditional condition yes no =>
      condition.calls liveOnly ++ yes.calls liveOnly ++
        no.calls liveOnly
  | .repeated count body =>
      if liveOnly && count.high == some 0 then []
      else body.calls liveOnly
  | .sequence items => callsAll liveOnly items
  | .alternatives branches => callsAll liveOnly branches
  | _ => []
termination_by structural x => x

/- The calls of several parts in order. -/
def callsAll
    (liveOnly : Bool) : List Node → List CallTarget
  | [] => []
  | node :: rest =>
      node.calls liveOnly ++ callsAll liveOnly rest
termination_by structural x => x

end

/- The groups of a pattern by number, outer ones first. -/
mutual

def Node.groups : Node → List (Nat × Node)
  | .look _ body => body.groups
  | .group number isNamed body =>
      (number, .group number isNamed body) :: body.groups
  | .atomic body => body.groups
  | .scoped _ body => body.groups
  | .conditional condition yes no =>
      condition.groups ++ yes.groups ++ no.groups
  | .repeated _ body => body.groups
  | .sequence items => groupsAll items
  | .alternatives branches => groupsAll branches
  | _ => []
termination_by structural x => x

/- The groups of several parts by number. -/
def groupsAll : List Node → List (Nat × Node)
  | [] => []
  | node :: rest => node.groups ++ groupsAll rest
termination_by structural x => x

end

------------------------------------------------------------
-- References
------------------------------------------------------------

/- A pattern whose groups are settled. -/
structure Settled where
  root : Node
  groupCount : Nat
  names : List (List Char × Nat)
  groups : List (Nat × Node)

/- The pattern has a group with a name. -/
def Settled.hasNames
    (pattern : Settled) : Bool :=
  !pattern.names.isEmpty

def Settled.group?
    (pattern : Settled)
    (group : Nat) : Option Node :=
  List.lookup group pattern.groups

def Settled.groupsAt
    (pattern : Settled)
    (numbers : List Nat) : List Node :=
  numbers.filterMap pattern.group?

/-
  Settle the groups of a pattern.  The whole pattern is group
  zero when there are calls.
-/
def settle
    (parsed : Parsed) : Except Refusal Settled := do
  let hasNames := !parsed.names.isEmpty
  let root ←
    if hasNames then parsed.root.dropUnnamed
    else pure parsed.root
  let root :=
    if parsed.calls = 0 || hasNames then root
    else .group 0 false root
  return ⟨root, parsed.groups, parsed.names, root.groups⟩

def checkReferences
    (pattern : Settled) : Except Refusal Unit :=
  let references := pattern.root.references
  let isMissing (reference : Reference) : Bool :=
    reference.groups.any (pattern.groupCount < ·)
  if pattern.hasNames && references.any (fun r => !r.byName)
  then .error .numberedReference
  else if references.any isMissing then
    .error .invalidReference
  else .ok ()

------------------------------------------------------------
-- Calls
------------------------------------------------------------

/- The group that a call runs. -/
def CallTarget.resolve
    (pattern : Settled) :
    CallTarget → Except Refusal Nat
  | .number group text =>
      if pattern.hasNames then .error .numberedReference
      else if pattern.groupCount < group then
        .error (.undefinedGroup text)
      else .ok group
  | .name text =>
      let groups := pattern.names.filterMap fun (known, group) =>
        if known = text then some group else none
      match groups with
      | [] => .error (.undefinedName text)
      | [group] => .ok group
      | _ => .error (.ambiguousCall text)

def CallTarget.group?
    (pattern : Settled)
    (target : CallTarget) : Option Nat :=
  match target.resolve pattern with
  | .ok group => some group
  | .error _ => none

/- The part that a call runs, if there is one. -/
def Settled.called?
    (pattern : Settled)
    (target : CallTarget) : Option Node :=
  (target.group? pattern).bind pattern.group?

def checkCalls
    (pattern : Settled) : Except Refusal Unit :=
  (pattern.root.calls false).forM fun target =>
    (target.resolve pattern).map fun _ => ()

/-
  The groups that are run by calls, starting from given calls.
  `fuel` bounds the number of groups.
-/
def calledFrom
    (pattern : Settled) :
    (fuel : Nat) →
    (pending : List Nat) →
    (called : List Nat) →
    List Nat
  | 0, _, called => called
  | fuel + 1, pending, called =>
      let new :=
        (pending.filter (fun g => !called.contains g)).eraseDups
      if new.isEmpty then called
      else
        let further := new.flatMap fun group =>
          match pattern.group? group with
          | some node =>
              (node.calls false).filterMap
                (·.group? pattern)
          | none => []
        calledFrom pattern fuel further (called ++ new)

/- The body of one group leads to another group. -/
def Settled.leadsTo
    (pattern : Settled)
    (start target : Nat) : Bool :=
  let called :=
    calledFrom pattern (pattern.groupCount + 2) [start] []
  called.any fun group =>
    match pattern.group? group with
    | some node => node.groups.any (·.1 == target)
    | none => false

/-
  A call of a group leads back to the call.  `around` is the
  group that the call stands in.
-/
def Settled.callsBack
    (pattern : Settled)
    (around : Option Nat)
    (group : Nat) : Bool :=
  around.any (pattern.leadsTo group)

def calledGroups
    (pattern : Settled) : List Nat :=
  calledFrom pattern (pattern.groupCount + 2)
    ((pattern.root.calls true).filterMap (·.group? pattern))
    []

end Oniguruma

end TextMate
