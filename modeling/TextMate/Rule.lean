import TextMate.Field
import TextMate.Pattern

/-
  This file defines rules, the rules for their captures, and
  the order in which a rule and those nested in it are
  visited.

  Every field of a rule may be absent, and an absent field
  differs from one that is empty.

  Key definitions include:
    * `Rule`
    * `Captures`
    * `Captures.insert`
    * `FieldValue`
    * `Rule.get?`
    * `Rule.set`
    * `Rule.fields`
    * `Rule.same`
    * `Rule.visit`
    * `Rule.shapeFault?`
    * `Rule.dropUnpaired`
-/

namespace TextMate

------------------------------------------------------------
-- Rules
------------------------------------------------------------

/-
  A rule of a grammar.  The rules for captures come with the
  index of their group, in ascending order.
-/
structure Rule where
  includeTarget : Option String
  matchPattern : Option PatternValue
  beginPattern : Option PatternValue
  endPattern : Option PatternValue
  whilePattern : Option PatternValue
  name : Option String
  contentName : Option String
  captures : Option (List (UInt32 × Rule))
  beginCaptures : Option (List (UInt32 × Rule))
  endCaptures : Option (List (UInt32 × Rule))
  whileCaptures : Option (List (UInt32 × Rule))
  patterns : Option (List Rule)

/- The rules for capture groups, by ascending index. -/
abbrev Captures := List (UInt32 × Rule)

namespace Rule

/- A rule without any field. -/
def empty : Rule :=
  ⟨none, none, none, none, none, none, none, none, none, none,
    none, none⟩

instance : Inhabited Rule := ⟨empty⟩

end Rule

------------------------------------------------------------
-- Captures
------------------------------------------------------------

namespace Captures

/- The indexes ascend, so none occurs twice. -/
def Ascending
    (captures : Captures) : Prop :=
  captures.Pairwise fun x y => x.1 < y.1

/-
  Set the rule for a group.  A rule that the group has already
  is replaced.
-/
def insert
    (index : UInt32)
    (rule : Rule) : Captures → Captures
  | [] => [(index, rule)]
  | (other, old) :: rest =>
      if index < other then
        (index, rule) :: (other, old) :: rest
      else if index = other then (index, rule) :: rest
      else (other, old) :: insert index rule rest

/- The rule for a group. -/
def get?
    (captures : Captures)
    (index : UInt32) : Option Rule :=
  List.lookup index captures

/- The captures of a list, where the last rule of a group
  counts. -/
def ofList
    (entries : List (UInt32 × Rule)) : Captures :=
  entries.foldl
    (fun captures (index, rule) => insert index rule captures)
    []

end Captures

------------------------------------------------------------
-- Fields
------------------------------------------------------------

inductive FieldValue where
  | pattern (value : PatternValue)
  | label (value : String)
  | captures (value : Captures)
  | children (value : List Rule)

/- The kind of field that a value is for. -/
def FieldValue.kind : FieldValue → FieldKind
  | .pattern _ => .pattern
  | .label _ => .label
  | .captures _ => .captures
  | .children _ => .children

namespace Rule

/- The value of a field, if the rule has it. -/
def get?
    (rule : Rule) : Field → Option FieldValue
  | .includeTarget => rule.includeTarget.map .label
  | .matchPattern => rule.matchPattern.map .pattern
  | .beginPattern => rule.beginPattern.map .pattern
  | .endPattern => rule.endPattern.map .pattern
  | .whilePattern => rule.whilePattern.map .pattern
  | .name => rule.name.map .label
  | .contentName => rule.contentName.map .label
  | .captures => rule.captures.map .captures
  | .beginCaptures => rule.beginCaptures.map .captures
  | .endCaptures => rule.endCaptures.map .captures
  | .whileCaptures => rule.whileCaptures.map .captures
  | .patterns => rule.patterns.map .children

/-
  Set a field to a value of its kind.  A value of another kind
  changes nothing.
-/
def set
    (rule : Rule)
    (field : Field)
    (value : FieldValue) : Rule :=
  match field, value with
  | .includeTarget, .label v =>
      { rule with includeTarget := some v }
  | .matchPattern, .pattern v =>
      { rule with matchPattern := some v }
  | .beginPattern, .pattern v =>
      { rule with beginPattern := some v }
  | .endPattern, .pattern v =>
      { rule with endPattern := some v }
  | .whilePattern, .pattern v =>
      { rule with whilePattern := some v }
  | .name, .label v => { rule with name := some v }
  | .contentName, .label v =>
      { rule with contentName := some v }
  | .captures, .captures v =>
      { rule with captures := some v }
  | .beginCaptures, .captures v =>
      { rule with beginCaptures := some v }
  | .endCaptures, .captures v =>
      { rule with endCaptures := some v }
  | .whileCaptures, .captures v =>
      { rule with whileCaptures := some v }
  | .patterns, .children v =>
      { rule with patterns := some v }
  | _, _ => rule

def erase
    (rule : Rule) : Field → Rule
  | .includeTarget => { rule with includeTarget := none }
  | .matchPattern => { rule with matchPattern := none }
  | .beginPattern => { rule with beginPattern := none }
  | .endPattern => { rule with endPattern := none }
  | .whilePattern => { rule with whilePattern := none }
  | .name => { rule with name := none }
  | .contentName => { rule with contentName := none }
  | .captures => { rule with captures := none }
  | .beginCaptures => { rule with beginCaptures := none }
  | .endCaptures => { rule with endCaptures := none }
  | .whileCaptures => { rule with whileCaptures := none }
  | .patterns => { rule with patterns := none }

def has
    (rule : Rule)
    (field : Field) : Bool :=
  (rule.get? field).isSome

/- The fields that a rule has, in canonical order. -/
def fields
    (rule : Rule) : List (Field × FieldValue) :=
  Field.all.filterMap fun field =>
    (rule.get? field).map fun value => (field, value)

------------------------------------------------------------
-- Equality
------------------------------------------------------------

/- Equality of rules, fields absent or empty told apart. -/
mutual

def same : Rule → Rule → Bool
  | ⟨i, m, b, e, w, n, c, cs, bs, es, ws, ps⟩,
    ⟨i', m', b', e', w', n', c', cs', bs', es', ws', ps'⟩ =>
      i == i' && m == m' && b == b' && e == e' && w == w' &&
        n == n' && c == c' && sameCaptures? cs cs' &&
        sameCaptures? bs bs' && sameCaptures? es es' &&
        sameCaptures? ws ws' && sameRules? ps ps'
termination_by structural x => x

/- Equality of captures that may be absent. -/
def sameCaptures? :
    Option (List (UInt32 × Rule)) → Option Captures → Bool
  | none, none => true
  | some x, some y => sameCaptures x y
  | _, _ => false
termination_by structural x => x

def sameCaptures :
    List (UInt32 × Rule) → Captures → Bool
  | [], [] => true
  | (index, rule) :: rest, (index', rule') :: rest' =>
      index == index' && rule.same rule' &&
        sameCaptures rest rest'
  | _, _ => false
termination_by structural x => x

/- Equality of rules in order that may be absent. -/
def sameRules? :
    Option (List Rule) → Option (List Rule) → Bool
  | none, none => true
  | some x, some y => sameRules x y
  | _, _ => false
termination_by structural x => x

/- Equality of rules in order. -/
def sameRules : List Rule → List Rule → Bool
  | [], [] => true
  | rule :: rest, rule' :: rest' =>
      rule.same rule' && sameRules rest rest'
  | _, _ => false
termination_by structural x => x

end

instance : BEq Rule := ⟨same⟩

------------------------------------------------------------
-- Visits
------------------------------------------------------------

def fieldPath
    (path : String)
    (field : Field) : String :=
  path ++ "." ++ field.key

def capturePath
    (path : String)
    (index : UInt32) : String :=
  path ++ "." ++ toString index.toNat

def itemPath
    (path : String)
    (position : Nat) : String :=
  path ++ "[" ++ toString position ++ "]"

/-
  A rule and those nested in it, each with its path.  A rule
  comes before its nested rules, and these come by field,
  then by group or position.
-/
mutual

def visit
    (path : String) : Rule → List (String × Rule)
  | ⟨i, m, b, e, w, n, c, cs, bs, es, ws, ps⟩ =>
      (path, ⟨i, m, b, e, w, n, c, cs, bs, es, ws, ps⟩) ::
        (visitCaptures? (fieldPath path .captures) cs ++
          visitCaptures? (fieldPath path .beginCaptures) bs ++
          visitCaptures? (fieldPath path .endCaptures) es ++
          visitCaptures? (fieldPath path .whileCaptures) ws ++
          visitRules? (fieldPath path .patterns) ps)
termination_by structural x => x

def visitCaptures?
    (path : String) :
    Option (List (UInt32 × Rule)) → List (String × Rule)
  | none => []
  | some captures => visitCaptures path captures
termination_by structural x => x

/- Visit captures by ascending index. -/
def visitCaptures
    (path : String) :
    List (UInt32 × Rule) → List (String × Rule)
  | [] => []
  | (index, rule) :: rest =>
      rule.visit (capturePath path index) ++
        visitCaptures path rest
termination_by structural x => x

def visitRules?
    (path : String) :
    Option (List Rule) → List (String × Rule)
  | none => []
  | some rules => visitRules path 0 rules
termination_by structural x => x

/- Visit rules by position, from a first position on. -/
def visitRules
    (path : String)
    (position : Nat) : List Rule → List (String × Rule)
  | [] => []
  | rule :: rest =>
      rule.visit (itemPath path position) ++
        visitRules path (position + 1) rest
termination_by structural x => x

end

------------------------------------------------------------
-- Shape
------------------------------------------------------------

/- What is wrong with the delimiters of a rule. -/
inductive ShapeFault where
  | matchWithBegin
  | endAndWhile
  | beginAlone
  | endAlone
  | whileAlone
deriving DecidableEq

def ShapeFault.reason : ShapeFault → String
  | .matchWithBegin =>
      "`match` and `begin` cannot be used on the same rule"
  | .endAndWhile =>
      "`begin` has both an `end` and a `while`"
  | .beginAlone => "`begin` without `end` or `while`"
  | .endAlone => "`end` without `begin`"
  | .whileAlone => "`while` without `begin`"

/-
  The fault in the shape of a rule, nested rules aside.  A
  match excludes a begin, and a begin needs exactly one of end
  and while, which need a begin.
-/
def shapeFault?
    (rule : Rule) : Option ShapeFault :=
  if rule.matchPattern.isSome && rule.beginPattern.isSome then
    some .matchWithBegin
  else
    match rule.beginPattern.isSome, rule.endPattern.isSome,
        rule.whilePattern.isSome with
    | true, true, true => some .endAndWhile
    | true, false, false => some .beginAlone
    | false, true, _ => some .endAlone
    | false, false, true => some .whileAlone
    | _, _, _ => none

/-
  The fields of a rule that lost their pair: the ends of a
  region that has no begin, or the begin of one that has no
  end, with their captures.
-/
def unpaired
    (rule : Rule) : List Field :=
  if !rule.has .beginPattern then
    [.endPattern, .whilePattern, .endCaptures,
      .whileCaptures].filter rule.has
  else if !rule.has .endPattern && !rule.has .whilePattern then
    [.beginPattern, .beginCaptures].filter rule.has
  else []

/- Remove the fields that lost their pair. -/
def dropUnpaired
    (rule : Rule) : Rule :=
  rule.unpaired.foldl erase rule

end Rule

end TextMate
