import TextMate.Import

/-
  This file describes an import as a walk over a document: what
  is kept of each node, what is found at which place, and which
  captures keys are met, all in walking order.

  A place is the list of steps that lead to a node, so two
  nodes have different places even where their paths are
  written alike.  The walk knows neither the path at which it
  starts nor a journal, and a key that is no index does not
  stop it.

  Main declarations:
    * `Step`, `Place`, `Finding`, `GroupKey`
    * `Walk`
    * `walkMembers`
    * `settled`
    * `walkRule`
    * `kept_walkMembers`, `findings_walkMembers`,
      `keys_walkMembers`
-/

namespace TextMate

namespace Import

------------------------------------------------------------
-- Places
------------------------------------------------------------

/- A step from an object or an array into it. -/
inductive Step where
  | member (key : String)
  | item (position : Nat)
deriving DecidableEq

/- The steps from a node to one inside it. -/
abbrev Place := List Step

/- The path of what a step leads to. -/
def Step.path
    (path : String) : Step → String
  | .member key => memberPath path key
  | .item position => Rule.itemPath path position

/- The path of the node at a place. -/
def Place.path
    (path : String)
    (place : Place) : String :=
  place.foldl Step.path path

/- What is found at a place. -/
structure Finding where
  place : Place
  severity : Severity
  kind : DiagnosticKind
deriving DecidableEq

/- A captures key, with the place of its object. -/
structure GroupKey where
  place : Place
  key : String
deriving DecidableEq

namespace Finding

/- A finding of a node that a step leads to. -/
def below
    (step : Step)
    (finding : Finding) : Finding :=
  { finding with place := step :: finding.place }

/- The diagnostic for a finding in the node at a path. -/
def diagnostic
    (path : String)
    (finding : Finding) : Diagnostic :=
  ⟨finding.severity, finding.place.path path, finding.kind⟩

end Finding

namespace GroupKey

/- A captures key of a node that a step leads to. -/
def below
    (step : Step)
    (groupKey : GroupKey) : GroupKey :=
  { groupKey with place := step :: groupKey.place }

/- The error for a captures key that is no index. -/
def error?
    (path : String)
    (groupKey : GroupKey) : Option Error :=
  if (groupIndex? groupKey.key).isSome then none
  else
    some
      (.capturesKey (groupKey.place.path path) groupKey.key)

end GroupKey

------------------------------------------------------------
-- Walks
------------------------------------------------------------

/- What a walk over a node comes to. -/
structure Walk (α : Type) where
  kept : α
  findings : List Finding
  keys : List GroupKey

namespace Walk

variable {α β γ : Type}

/- Nothing is found. -/
def done
    (kept : α) : Walk α :=
  ⟨kept, [], []⟩

/- The node itself is at fault. -/
def fault
    (kept : α)
    (kind : DiagnosticKind) : Walk α :=
  ⟨kept, [⟨[], .error, kind⟩], []⟩

/- Change what is kept. -/
def map
    (change : α → β)
    (walk : Walk α) : Walk β :=
  ⟨change walk.kept, walk.findings, walk.keys⟩

/- A walk that continues with another. -/
def join
    (combine : α → β → γ)
    (first : Walk α)
    (second : Walk β) : Walk γ :=
  ⟨combine first.kept second.kept,
    first.findings ++ second.findings,
    first.keys ++ second.keys⟩

/- A walk over a node that a step leads to. -/
def below
    (step : Step)
    (walk : Walk α) : Walk α :=
  ⟨walk.kept, walk.findings.map (Finding.below step),
    walk.keys.map (GroupKey.below step)⟩

/- A walk that meets a captures key first. -/
def meet
    (key : String)
    (walk : Walk α) : Walk α :=
  { walk with keys := ⟨[], key⟩ :: walk.keys }

/- The diagnostics of a walk that starts at a path. -/
def diagnostics
    (path : String)
    (walk : Walk α) : List Diagnostic :=
  walk.findings.map (Finding.diagnostic path)

/- The errors of a walk that starts at a path. -/
def errors
    (path : String)
    (walk : Walk α) : List Error :=
  walk.keys.filterMap (GroupKey.error? path)

@[simp] theorem errors_map
    (path : String)
    (change : α → β)
    (walk : Walk α) :
    (walk.map change).errors path = walk.errors path := rfl

@[simp] theorem diagnostics_join
    (path : String)
    (combine : α → β → γ)
    (first : Walk α)
    (second : Walk β) :
    (first.join combine second).diagnostics path =
      first.diagnostics path ++ second.diagnostics path :=
  List.map_append

@[simp] theorem errors_join
    (path : String)
    (combine : α → β → γ)
    (first : Walk α)
    (second : Walk β) :
    (first.join combine second).errors path =
      first.errors path ++ second.errors path :=
  List.filterMap_append

@[simp] theorem diagnostics_below
    (path : String)
    (step : Step)
    (walk : Walk α) :
    (walk.below step).diagnostics path =
      walk.diagnostics (step.path path) := by
  simp only [diagnostics, below, List.map_map]
  rfl

@[simp] theorem errors_below
    (path : String)
    (step : Step)
    (walk : Walk α) :
    (walk.below step).errors path =
      walk.errors (step.path path) := by
  simp only [errors, below, List.filterMap_map]
  rfl

end Walk

------------------------------------------------------------
-- Rules That Are Kept
------------------------------------------------------------

/- Fields in document order, each with its value if kept. -/
abbrev Outcomes := List (Field × Option FieldValue)

/- Set the fields that are kept. -/
def assemble
    (rule : Rule)
    (outcomes : Outcomes) : Rule :=
  outcomes.foldl
    (fun rule outcome =>
      match outcome.2 with
      | some value => rule.set outcome.1 value
      | none => rule)
    rule

/- Some delimiter is not kept. -/
def losesDelimiter
    (outcomes : Outcomes) : Bool :=
  outcomes.any fun outcome =>
    outcome.2.isNone && outcome.1.isDelimiter

/- The finding for a field that lost its pair. -/
def unpairedFinding
    (field : Field) : Finding :=
  ⟨[.member field.key], .error, .unpairedDelimiter⟩

/- The rule for fields that are kept, and what else is lost. -/
def settled
    (outcomes : Outcomes) : Walk Rule :=
  let rule := assemble .empty outcomes
  if losesDelimiter outcomes then
    ⟨rule.dropUnpaired, rule.unpaired.map unpairedFinding, []⟩
  else .done rule

------------------------------------------------------------
-- Values That Are Kept
------------------------------------------------------------

/- What is kept of the text of a pattern or a label. -/
def walkText
    (check : Acceptance)
    (field : Field)
    (text : String) : Walk (Option FieldValue) :=
  match field.kind with
  | .pattern =>
      let pattern := Pattern.ofText text
      match isJudged field pattern, check text with
      | true, some reason =>
          .fault none (.malformedPattern text reason)
      | _, _ => .done (some (.pattern (.compiled pattern)))
  | .label => .done (some (.label text))
  | .captures => .fault none (.unexpectedValue "an object")
  | .children => .fault none (.unexpectedValue "an array")

/- A value that is no text, or of the wrong type, is lost. -/
def walkScalar
    (field : Field) : Walk (Option FieldValue) :=
  match field.kind with
  | .pattern | .label =>
      .fault none (.unexpectedValue "a string")
  | .captures => .fault none (.unexpectedValue "an object")
  | .children => .fault none (.unexpectedValue "an array")

/- The rule for a group, if its key is an index. -/
def groupEntry
    (key : String)
    (rule? : Option Rule) : List (UInt32 × Rule) :=
  match groupIndex? key with
  | some index => rule?.toList.map fun rule => (index, rule)
  | none => []

/- Walk over the members of a rule. -/
mutual

def walkMembers
    (check : Acceptance) :
    List (String × Json.Value) → Walk Outcomes
  | [] => .done []
  | (key, value) :: rest =>
      match Field.ofKey? key with
      | none =>
          Walk.join (fun _ => id)
            ⟨(), [⟨[.member key], .warning,
              .unrecognizedField⟩], []⟩
            (walkMembers check rest)
      | some field =>
          Walk.join (fun value rest => (field, value) :: rest)
            ((walkValue check field value).below (.member key))
            (walkMembers check rest)
termination_by structural x => x

/- Walk over the value of a field. -/
def walkValue
    (check : Acceptance)
    (field : Field) :
    Json.Value → Walk (Option FieldValue)
  | .string text => walkText check field text
  | .array items =>
      match field.kind with
      | .children =>
          (walkItems check 0 items).map fun rules =>
            some (.children rules)
      | _ => walkScalar field
  | .object members =>
      match field.kind with
      | .captures =>
          (walkCaptures check members).map fun entries =>
            some (.captures (.ofList entries))
      | _ => walkScalar field
  | .null | .bool _ | .number _ => walkScalar field
termination_by structural x => x

/- Walk over captures. -/
def walkCaptures
    (check : Acceptance) :
    List (String × Json.Value) → Walk (List (UInt32 × Rule))
  | [] => .done []
  | (key, value) :: rest =>
      Walk.meet key
        (Walk.join
          (fun rule? rest => groupEntry key rule? ++ rest)
          ((walkNested check value).below (.member key))
          (walkCaptures check rest))
termination_by structural x => x

/- Walk over the items of a list of rules. -/
def walkItems
    (check : Acceptance)
    (position : Nat) : List Json.Value → Walk (List Rule)
  | [] => .done []
  | value :: rest =>
      Walk.join (fun rule? rest => rule?.toList ++ rest)
        ((walkNested check value).below (.item position))
        (walkItems check (position + 1) rest)
termination_by structural x => x

/- Walk over a nested rule. -/
def walkNested
    (check : Acceptance) : Json.Value → Walk (Option Rule)
  | .object members =>
      let outcomes := walkMembers check members
      Walk.join (fun _ rule => some rule) outcomes
        (settled outcomes.kept)
  | .null | .bool _ | .number _ | .string _ | .array _ =>
      .fault none (.unexpectedValue "an object")
termination_by structural x => x

end

/- Walk over a rule. -/
def walkRule
    (check : Acceptance)
    (members : Json.Object) : Walk Rule :=
  let outcomes := walkMembers check members
  Walk.join (fun _ rule => rule) outcomes
    (settled outcomes.kept)

------------------------------------------------------------
-- Walks over Lists
------------------------------------------------------------

section Lists

variable (check : Acceptance)

/- What is kept of a member of a rule. -/
def memberOutcome?
    (member : String × Json.Value) :
    Option (Field × Option FieldValue) :=
  (Field.ofKey? member.1).map fun field =>
    (field, (walkValue check field member.2).kept)

/- What is found at a member of a rule. -/
def memberFindings
    (member : String × Json.Value) : List Finding :=
  match Field.ofKey? member.1 with
  | none =>
      [⟨[.member member.1], .warning, .unrecognizedField⟩]
  | some field =>
      ((walkValue check field member.2).below
        (.member member.1)).findings

/- The captures keys that are met in a member of a rule. -/
def memberKeys
    (member : String × Json.Value) : List GroupKey :=
  match Field.ofKey? member.1 with
  | none => []
  | some field =>
      ((walkValue check field member.2).below
        (.member member.1)).keys

theorem kept_walkMembers
    (members : Json.Object) :
    (walkMembers check members).kept =
      members.filterMap (memberOutcome? check) := by
  induction members with
  | nil => rfl
  | cons member rest ih =>
      rcases member with ⟨key, value⟩
      rw [walkMembers]
      cases hField : Field.ofKey? key with
      | none =>
          rw [List.filterMap_cons_none
            (by simp [memberOutcome?, hField])]
          exact ih
      | some field =>
          rw [List.filterMap_cons_some
            (by simp [memberOutcome?, hField]; rfl)]
          exact congrArg _ ih

theorem findings_walkMembers
    (members : Json.Object) :
    (walkMembers check members).findings =
      members.flatMap (memberFindings check) := by
  induction members with
  | nil => rfl
  | cons member rest ih =>
      rcases member with ⟨key, value⟩
      rw [walkMembers, List.flatMap_cons, ← ih,
        memberFindings]
      cases Field.ofKey? key <;> rfl

theorem keys_walkMembers
    (members : Json.Object) :
    (walkMembers check members).keys =
      members.flatMap (memberKeys check) := by
  induction members with
  | nil => rfl
  | cons member rest ih =>
      rcases member with ⟨key, value⟩
      rw [walkMembers, List.flatMap_cons, ← ih, memberKeys]
      cases Field.ofKey? key <;> rfl

theorem kept_walkCaptures
    (members : Json.Object) :
    (walkCaptures check members).kept =
      members.flatMap fun member =>
        groupEntry member.1
          (walkNested check member.2).kept := by
  induction members with
  | nil => rfl
  | cons member rest ih =>
      rw [walkCaptures, List.flatMap_cons, ← ih]
      rfl

theorem findings_walkCaptures
    (members : Json.Object) :
    (walkCaptures check members).findings =
      members.flatMap fun member =>
        ((walkNested check member.2).below
          (.member member.1)).findings := by
  induction members with
  | nil => rfl
  | cons member rest ih =>
      rw [walkCaptures, List.flatMap_cons, ← ih]
      rfl

theorem keys_walkCaptures
    (members : Json.Object) :
    (walkCaptures check members).keys =
      members.flatMap fun member =>
        ⟨[], member.1⟩ ::
          ((walkNested check member.2).below
            (.member member.1)).keys := by
  induction members with
  | nil => rfl
  | cons member rest ih =>
      rw [walkCaptures, List.flatMap_cons, ← ih]
      rfl

theorem kept_walkItems
    (position : Nat)
    (items : List Json.Value) :
    (walkItems check position items).kept =
      items.filterMap fun item =>
        (walkNested check item).kept := by
  induction items generalizing position with
  | nil => rfl
  | cons item rest ih =>
      rw [walkItems]
      cases hKept : (walkNested check item).kept with
      | none =>
          simp [Walk.join, Walk.below, hKept, ih]
      | some rule =>
          simp [Walk.join, Walk.below, hKept, ih]

theorem findings_walkItems
    (position : Nat)
    (items : List Json.Value) :
    (walkItems check position items).findings =
      (items.zipIdx position).flatMap fun item =>
        ((walkNested check item.1).below
          (.item item.2)).findings := by
  induction items generalizing position with
  | nil => rfl
  | cons item rest ih =>
      rw [walkItems, List.zipIdx_cons, List.flatMap_cons,
        ← ih (position + 1)]
      rfl

theorem keys_walkItems
    (position : Nat)
    (items : List Json.Value) :
    (walkItems check position items).keys =
      (items.zipIdx position).flatMap fun item =>
        ((walkNested check item.1).below
          (.item item.2)).keys := by
  induction items generalizing position with
  | nil => rfl
  | cons item rest ih =>
      rw [walkItems, List.zipIdx_cons, List.flatMap_cons,
        ← ih (position + 1)]
      rfl

/- A nested object is walked over as a rule. -/
theorem walkNested_object
    (members : Json.Object) :
    walkNested check (.object members) =
      (walkRule check members).map some := rfl

end Lists

end Import

end TextMate
