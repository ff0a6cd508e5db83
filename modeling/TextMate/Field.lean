/-
  This file defines the fields of a TextMate rule and the
  classification of document keys.

  Key definitions include:
    * `FieldKind`
    * `Field`
    * `Field.all`
    * `Field.key`
    * `Field.kind`
    * `Field.ofKey?`
    * `FieldKind.ofKey?`
-/

namespace TextMate

------------------------------------------------------------
-- Kinds of Fields
------------------------------------------------------------

/- The type of value that a field of a rule holds. -/
inductive FieldKind where
  | pattern
  | label
  | captures
  | children
deriving DecidableEq

------------------------------------------------------------
-- Rule Fields
------------------------------------------------------------

inductive Field where
  | includeTarget
  | matchPattern
  | beginPattern
  | endPattern
  | whilePattern
  | name
  | contentName
  | captures
  | beginCaptures
  | endCaptures
  | whileCaptures
  | patterns
deriving DecidableEq

namespace Field

/- Every field, in the order in which rules are written. -/
def all : List Field :=
  [.includeTarget, .matchPattern, .beginPattern, .endPattern,
    .whilePattern, .name, .contentName, .captures,
    .beginCaptures, .endCaptures, .whileCaptures, .patterns]

/- The list of all fields leaves none out. -/
theorem mem_all
    (field : Field) :
    field ∈ all := by
  cases field <;> decide

/- The key of a field in a grammar document. -/
def key : Field → String
  | .includeTarget => "include"
  | .matchPattern => "match"
  | .beginPattern => "begin"
  | .endPattern => "end"
  | .whilePattern => "while"
  | .name => "name"
  | .contentName => "contentName"
  | .captures => "captures"
  | .beginCaptures => "beginCaptures"
  | .endCaptures => "endCaptures"
  | .whileCaptures => "whileCaptures"
  | .patterns => "patterns"

/- Different fields have different keys. -/
theorem key_injective
    {first second : Field}
    (hKey : first.key = second.key) :
    first = second := by
  revert hKey
  cases first <;> cases second <;> decide

/- The type of value that a field holds. -/
def kind : Field → FieldKind
  | .matchPattern | .beginPattern | .endPattern
  | .whilePattern => .pattern
  | .includeTarget | .name | .contentName => .label
  | .captures | .beginCaptures | .endCaptures
  | .whileCaptures => .captures
  | .patterns => .children

/- The field written under a key, if the key names one. -/
def ofKey?
    (key : String) : Option Field :=
  all.find? (fun field => field.key == key)

/- Looking up the key of a field gives that field. -/
theorem ofKey?_key
    (field : Field) :
    ofKey? field.key = some field := by
  cases field <;> decide

/- A delimiter opens, closes or continues a region. -/
def isDelimiter : Field → Bool
  | .beginPattern | .endPattern | .whilePattern => true
  | _ => false

end Field

------------------------------------------------------------
-- Key Classification
------------------------------------------------------------

namespace FieldKind

/- The keys of labels that stand at the root of a document. -/
def rootLabels : List String :=
  ["scopeName", "injectionSelector"]

/-
  The kind of value expected under a key, for the keys of
  rules and for the labels at the root of a document.
-/
def ofKey?
    (key : String) : Option FieldKind :=
  match Field.ofKey? key with
  | some field => some field.kind
  | none => if key ∈ rootLabels then some .label else none

end FieldKind

end TextMate
