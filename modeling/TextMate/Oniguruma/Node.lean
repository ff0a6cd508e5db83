import TextMate.Oniguruma.Letter
import TextMate.Oniguruma.Repeat

/-
  This file defines the structure of a pattern as far as it
  decides whether the pattern is accepted: text, groups,
  references, calls, repeats and look-around.  Of a set of
  characters nothing is kept but that it matches one.

  Key definitions include:
    * `Anchor`
    * `Look`
    * `Directive`
    * `CallTarget`
    * `Node`
    * `Node.spliced`
    * `Node.splitLast?`
    * `Node.refusesRepeat`
    * `Node.applyRepeat`
    * `Node.lineBreak`
    * `Node.segment`
    * `Node.absence`
-/

namespace TextMate

namespace Oniguruma

------------------------------------------------------------
-- Parts
------------------------------------------------------------

/- A position that a pattern can ask for. -/
inductive Anchor where
  | lineStart
  | lineEnd
  | textStart
  | textEnd
  | lastLineEnd
  | searchStart
  | wordEdge
  | segmentEdge
deriving DecidableEq

/- A direction of look-around and whether it is negated. -/
inductive Look where
  | ahead
  | notAhead
  | behind
  | notBehind
deriving DecidableEq

/-
  A part that matches no text but steers the match.  One that
  cuts the range has an effect on what follows the part.
-/
inductive Directive where
  | plain
  | cutsRange
  | fail
deriving DecidableEq

/- The group that a call runs, as it was written. -/
inductive CallTarget where
  | number (group : Nat) (text : List Char)
  | name (text : List Char)
deriving DecidableEq

/-
  A part of a pattern.  `text` matches letters in a row, in
  either case when it folds their case, and `set` matches one
  of several characters.  A reference lists the groups it may
  mean; it is `inside` when one of them is still open, and a
  test when it only asks for a match of them.  `atomic` keeps
  what it matched, and `scoped` has options of its own, perhaps
  some that are for the whole pattern.
-/
inductive Node where
  | empty
  | text (letters : List Letter) (foldsCase : Bool)
  | set
  | anchor (anchor : Anchor)
  | look (look : Look) (body : Node)
  | directive (effect : Directive)
  | reference
      (groups : List Nat)
      (byName : Bool)
      (isTest : Bool)
      (inside : Bool)
  | call (target : CallTarget)
  | group (number : Nat) (isNamed : Bool) (body : Node)
  | atomic (body : Node)
  | scoped (isWhole : Bool) (body : Node)
  | conditional (condition yes no : Node)
  | repeated (count : Repeat) (body : Node)
  | sequence (items : List Node)
  | alternatives (branches : List Node)

namespace Node

instance : Inhabited Node := ⟨.empty⟩

/-
  The part of a pattern for a row of items.  A single item
  stands for itself.
-/
def ofItems : List Node → Node
  | [item] => item
  | items => .sequence items

/- The items of a part: those of a row, or the part itself. -/
def items : Node → List Node
  | .sequence items => items
  | node => [node]

/-
  The items of a branch in one row.  A row inside it becomes
  part of it, unless it is the first item.
-/
def spliced : List Node → List Node
  | [] => []
  | first :: rest => first :: rest.flatMap items

/-
  The last letter of a text and what stands before it.  None
  when there is no more than one letter.
-/
def splitLast? : Node → Option (Node × Node)
  | .text (first :: second :: rest) foldsCase =>
      let letters := first :: second :: rest
      some (.text letters.dropLast foldsCase,
        .text (letters.drop (letters.length - 1)) foldsCase)
  | _ => none

/-
  The part of a pattern for a choice.  A single branch stands
  for itself.
-/
def ofBranches : List Node → Node
  | [branch] => branch
  | branches => .alternatives branches

------------------------------------------------------------
-- Repeats
------------------------------------------------------------

/-
  The part cannot be repeated: it is an anchor, a look-around
  or a directive, or a choice that has such a branch.
-/
mutual

def refusesRepeat : Node → Bool
  | .anchor _ | .look _ _ | .directive _ => true
  | .alternatives branches => anyRefusesRepeat branches
  | _ => false
termination_by structural x => x

/- One of the parts cannot be repeated. -/
def anyRefusesRepeat : List Node → Bool
  | [] => false
  | node :: rest =>
      node.refusesRepeat || anyRefusesRepeat rest
termination_by structural x => x

end

/- Join a repeat with one that its part consists of. -/
def joinRepeat
    (count : Repeat)
    (target : Node) : Except Refusal Node :=
  match target with
  | .repeated inner body =>
      (count.join inner).map fun joined =>
        match joined with
        | .apart => .repeated count target
        | .one both => .repeated both body
        | .two outer inner =>
            .repeated outer (.repeated inner body)
  | target => .ok (.repeated count target)

/- Repeat a part.  Once is the part itself. -/
def applyRepeat
    (count : Repeat)
    (target : Node) : Except Refusal Node :=
  if count.fixed? = some 1 then .ok target
  else
    match target with
    | .repeated inner _ =>
        joinRepeat (count.around inner) target
    | target => .ok (.repeated count target)

------------------------------------------------------------
-- Compound Parts
------------------------------------------------------------

/- A line break: two characters or a single one. -/
def lineBreak : Node :=
  .atomic (.alternatives
    [.text [.ofChar '\r', .ofChar '\n'] false, .set])

/- A text segment: characters with no edge between them. -/
def segment : Node :=
  .atomic (.sequence
    [.set,
      .repeated Repeat.Kind.star.times
        (.sequence [.anchor .segmentEdge, .set])])

/- A part that gives up a way of matching after an effect. -/
def giveUp
    (effect : Directive) : Node :=
  .sequence [.directive effect, .directive .fail]

/-
  The search for text without a part: step by step as long as
  the part is absent.
-/
def absentSteps
    (absent step : Node)
    (count : Repeat)
    (isAtomic : Bool)
    (effect : Directive) : Node :=
  let found : Node :=
    .sequence
      [.directive .plain, absent, .directive effect,
        .directive .fail]
  let steps : Node :=
    .repeated count (.alternatives [found, step])
  .alternatives
    [if isAtomic then .atomic steps else steps, giveUp .plain]

/- The part matches a single character. -/
def isSingle : Node → Bool
  | .text [_] _ | .set => true
  | _ => false

/-
  The greedy repeat of a single character that a part consists
  of, and whether it keeps what it matched.
-/
def singleRepeat? : Node → Option (Repeat × Node × Bool)
  | .repeated count body =>
      if count.isLazy || !body.isSingle then none
      else some (count, body, false)
  | .atomic (.repeated count body) =>
      if count.isLazy || !body.isSingle then none
      else some (count, body, true)
  | _ => none

/- Text of a simple form that a part is absent from. -/
def simpleAbsence
    (absent step : Node)
    (count : Repeat)
    (isAtomic : Bool) : Node :=
  .sequence
    [.directive .plain,
      absentSteps absent step count isAtomic .plain,
      .directive .plain]

/-
  Text that a part is absent from: any text, or text of a
  form.
-/
def absence
    (absent : Node)
    (form : Option Node) : Node :=
  match form with
  | none =>
      simpleAbsence absent .set
        Repeat.Kind.star.times false
  | some form =>
      match form.singleRepeat? with
      | some (count, step, isAtomic) =>
          simpleAbsence absent step count isAtomic
      | none =>
          .sequence
            [.directive .plain, .directive .plain,
              absentSteps absent .set
                Repeat.Kind.star.times true .plain,
              .directive .plain, form, .directive .plain]

/- An end of the range where a part is found. -/
def rangeCutter
    (absent : Node) : Node :=
  .sequence
    [.directive .plain, .directive .plain,
      absentSteps absent .set
        Repeat.Kind.star.times true .cutsRange,
      .directive .plain]

/- A reset of the range to what it was at first. -/
def rangeReset : Node :=
  .sequence
    [.directive .plain,
      .alternatives
        [.directive .cutsRange, giveUp .plain]]

end Node

end Oniguruma

end TextMate
