import TextMate.Document
import TextMate.Grammar

/-
  This file defines the export of a grammar to a document,
  which never fails and reports nothing.

  Key definitions include:
    * `Rule.toObject`
    * `Repository.toEntries`
    * `Grammar.toDocument`
-/

namespace TextMate

------------------------------------------------------------
-- Rules
------------------------------------------------------------

namespace Rule

def labelMember
    (field : Field) : Option String → Json.Object
  | none => []
  | some label => [(field.key, .string label)]

def patternMember
    (field : Field) : Option PatternValue → Json.Object
  | none => []
  | some pattern => [(field.key, .string pattern.toText)]

/- The members of a rule, in canonical order. -/
mutual

def toObject : Rule → Json.Object
  | ⟨i, m, b, e, w, n, c, cs, bs, es, ws, ps⟩ =>
      labelMember .includeTarget i ++
        patternMember .matchPattern m ++
        patternMember .beginPattern b ++
        patternMember .endPattern e ++
        patternMember .whilePattern w ++
        labelMember .name n ++
        labelMember .contentName c ++
        capturesMember .captures cs ++
        capturesMember .beginCaptures bs ++
        capturesMember .endCaptures es ++
        capturesMember .whileCaptures ws ++
        childrenMember .patterns ps
termination_by structural x => x

/- The member for captures, if they are there. -/
def capturesMember
    (field : Field) :
    Option (List (UInt32 × Rule)) → Json.Object
  | none => []
  | some captures =>
      [(field.key, .object (groupMembers captures))]
termination_by structural x => x

/- The members of captures, one for each group. -/
def groupMembers :
    List (UInt32 × Rule) → Json.Object
  | [] => []
  | (index, rule) :: rest =>
      (toString index.toNat, .object rule.toObject) ::
        groupMembers rest
termination_by structural x => x

/- The member for nested rules, if they are there. -/
def childrenMember
    (field : Field) : Option (List Rule) → Json.Object
  | none => []
  | some rules => [(field.key, .array (toItems rules))]
termination_by structural x => x

def toItems : List Rule → List Json.Value
  | [] => []
  | rule :: rest => .object rule.toObject :: toItems rest
termination_by structural x => x

end

end Rule

------------------------------------------------------------
-- Grammars
------------------------------------------------------------

def Repository.toEntries
    (repository : Repository) :
    List (String × Json.Object) :=
  repository.entries.map fun (name, rule) =>
    (name, rule.toObject)

/- The JSON value of a root field that is kept. -/
def ExtraValue.toValue : ExtraValue → Json.Value
  | .text value => .string value
  | .list values => .array (values.map Json.Value.string)

/-
  The JSON object for the root fields that are kept.  Of two
  fields with one name, the first has the place and the last
  the value.
-/
def Grammar.extraObject
    (extra : List (String × ExtraValue)) : Json.Object :=
  extra.foldl
    (fun members (key, value) =>
      Json.Object.insert key value.toValue members)
    []

def Grammar.toDocument
    (grammar : Grammar) : Document where
  name := grammar.name
  scopeName := grammar.scopeName
  injectionSelector := grammar.injectionSelector
  patterns := grammar.patterns.map Rule.toObject
  repository := grammar.repository.toEntries
  extra := extraObject grammar.extra

end TextMate
