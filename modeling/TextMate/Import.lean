import TextMate.Document
import TextMate.Grammar

/-
  This file defines the import of a grammar document, which
  keeps as much as possible: what cannot be kept is dropped
  and reported, and only a name that is used twice and a
  captures key that is no group index stop the import.

  Which patterns are acceptable is a parameter.

  Key definitions include:
    * `Acceptance`
    * `groupIndex?`
    * `importPattern`
    * `importMembers`
    * `settle`
    * `importRule`
    * `importRepository`
    * `importGrammar`
-/

namespace TextMate

namespace Import

/-
  A judgement of pattern texts: the reason to refuse a text,
  or nothing for a text that is accepted.
-/
abbrev Acceptance := String → Option String

------------------------------------------------------------
-- Captures Keys
------------------------------------------------------------

/- The value of a digit, if a character is one. -/
def digit?
    (c : Char) : Option Nat :=
  if '0' ≤ c && c ≤ '9' then some (c.toNat - '0'.toNat)
  else none

/- Read decimal digits behind those that were read. -/
def decimal?
    (value : Nat) : List Char → Option Nat
  | [] => some value
  | c :: rest =>
      match digit? c with
      | some digit => decimal? (value * 10 + digit) rest
      | none => none

/- Read a text of one decimal digit or more. -/
def number? : List Char → Option Nat
  | [] => none
  | digits => decimal? 0 digits

/-
  The index of the group that a captures key names.  A key may
  have a plus sign and leading zeros, and an index has 32
  bits.
-/
def groupIndex?
    (key : String) : Option UInt32 :=
  let digits :=
    match key.toList with
    | '+' :: digits => digits
    | digits => digits
  match number? digits with
  | some value =>
      if value < UInt32.size then some value.toUInt32
      else none
  | none => none

------------------------------------------------------------
-- Values
------------------------------------------------------------

def memberPath
    (path : String)
    (key : String) : String :=
  path ++ "." ++ key

/- Report a value of another type and drop it. -/
def dropValue
    {α : Type}
    (path : String)
    (expected : String) : Run (Option α) := do
  Run.discard path (.unexpectedValue expected)
  return none

/-
  An end or while pattern with backreferences is not judged:
  these refer to the groups of the begin pattern.
-/
def isJudged
    (field : Field)
    (pattern : Pattern) : Bool :=
  !((field = .endPattern || field = .whilePattern) &&
    pattern.hasBackreferences)

def importPattern
    (check : Acceptance)
    (path : String)
    (field : Field)
    (text : String) : Run (Option FieldValue) := do
  let pattern := Pattern.ofText text
  let kept := some (.pattern (.compiled pattern))
  if isJudged field pattern then
    match check pattern.text with
    | some reason =>
        Run.discard path (.malformedPattern text reason)
        return none
    | none => return kept
  else return kept

/- Import the text of a pattern or a label. -/
def importText
    (check : Acceptance)
    (path : String)
    (field : Field)
    (text : String) : Run (Option FieldValue) :=
  match field.kind with
  | .pattern => importPattern check path field text
  | .label => return some (.label text)
  | .captures => dropValue path "an object"
  | .children => dropValue path "an array"

/- Drop a value that is no text, array or object. -/
def dropScalar
    (path : String)
    (field : Field) : Run (Option FieldValue) :=
  match field.kind with
  | .pattern | .label => dropValue path "a string"
  | .captures => dropValue path "an object"
  | .children => dropValue path "an array"

------------------------------------------------------------
-- Pairs
------------------------------------------------------------

/- Report fields that lost their pair. -/
def reportUnpaired
    (path : String) : List Field → Run Unit
  | [] => return ()
  | field :: rest => do
      Run.discard (Rule.fieldPath path field)
        .unpairedDelimiter
      reportUnpaired path rest

/-
  Finish a rule.  If a delimiter was dropped then the fields
  that lost their pair go too.
-/
def settle
    (path : String)
    (rule : Rule)
    (hasLost : Bool) : Run Rule := do
  if hasLost then
    reportUnpaired path rule.unpaired
    return rule.dropUnpaired
  else return rule

------------------------------------------------------------
-- Rules
------------------------------------------------------------

/-
  Import the members of a rule behind those that were
  imported.  The flag says that a delimiter was dropped.
-/
mutual

def importMembers
    (check : Acceptance)
    (path : String)
    (rule : Rule)
    (hasLost : Bool) :
    List (String × Json.Value) → Run (Rule × Bool)
  | [] => return (rule, hasLost)
  | (key, value) :: rest => do
      match Field.ofKey? key with
      | none =>
          Run.warn (memberPath path key) .unrecognizedField
          importMembers check path rule hasLost rest
      | some field =>
          match ← importValue check (memberPath path key) field
              value with
          | some imported =>
              importMembers check path (rule.set field imported)
                hasLost rest
          | none =>
              importMembers check path rule
                (hasLost || field.isDelimiter) rest
termination_by structural x => x

/- Import the value of a field, if it can be kept. -/
def importValue
    (check : Acceptance)
    (path : String)
    (field : Field) :
    Json.Value → Run (Option FieldValue)
  | .string text => importText check path field text
  | .array items =>
      match field.kind with
      | .children => do
          let rules ← importItems check path 0 items
          return some (.children rules)
      | _ => dropScalar path field
  | .object members =>
      match field.kind with
      | .captures => do
          let captures ← importCaptures check path [] members
          return some (.captures captures)
      | _ => dropScalar path field
  | .null | .bool _ | .number _ => dropScalar path field
termination_by structural x => x

/- Import captures behind those that were imported. -/
def importCaptures
    (check : Acceptance)
    (path : String)
    (captures : Captures) :
    List (String × Json.Value) → Run Captures
  | [] => return captures
  | (key, value) :: rest =>
      match groupIndex? key with
      | none => throw (.capturesKey path key)
      | some index => do
          match ← importNested check (memberPath path key)
              value with
          | some rule =>
              importCaptures check path
                (captures.insert index rule) rest
          | none => importCaptures check path captures rest
termination_by structural x => x

/- Import the items of a list of rules from a position on. -/
def importItems
    (check : Acceptance)
    (path : String)
    (position : Nat) : List Json.Value → Run (List Rule)
  | [] => return []
  | value :: rest => do
      let rule? ← importNested check
        (Rule.itemPath path position) value
      let rules ← importItems check path (position + 1) rest
      return rule?.toList ++ rules
termination_by structural x => x

/- Import a nested rule, which has to be an object. -/
def importNested
    (check : Acceptance)
    (path : String) : Json.Value → Run (Option Rule)
  | .object members => do
      let (rule, hasLost) ←
        importMembers check path .empty false members
      let rule ← settle path rule hasLost
      return some rule
  | .null | .bool _ | .number _ | .string _ | .array _ =>
      dropValue path "an object"
termination_by structural x => x

end

end Import

open Import (Acceptance)

def importRule
    (check : Acceptance)
    (path : String)
    (members : Json.Object) : Run Rule := do
  let (rule, hasLost) ←
    Import.importMembers check path .empty false members
  Import.settle path rule hasLost

------------------------------------------------------------
-- Grammars
------------------------------------------------------------

namespace Import

/- Import repository entries behind those that are there. -/
def importEntries
    (check : Acceptance)
    (repository : Repository) :
    List (String × Json.Object) → Run Repository
  | [] => return repository
  | (name, members) :: rest => do
      if repository.contains name then
        throw (.repositoryCollision name)
      let rule ←
        importRule check (Grammar.entryPath name) members
      let repository ← repository.insert name rule
      Run.note .debug
        ("Processed repository entry '" ++ name ++ "'")
      importEntries check repository rest

/- Import root rules from a position on. -/
def importPatterns
    (check : Acceptance)
    (position : Nat) :
    List Json.Object → Run (List Rule)
  | [] => return []
  | members :: rest => do
      let rule ← importRule check
        (Rule.itemPath Grammar.rootPath position) members
      let rules ← importPatterns check (position + 1) rest
      return rule :: rules

/- A root field that is kept as it is: texts alone can be. -/
def extraValue? : Json.Value → Option ExtraValue
  | .string text => some (.text text)
  | .array items =>
      (items.mapM Json.Value.text?).map .list
  | _ => none

/- Import the root fields that are not modelled. -/
def importExtra :
    Json.Object → Run (List (String × ExtraValue))
  | [] => return []
  | (key, value) :: rest => do
      Run.warn key .unrecognizedField
      match extraValue? value with
      | some kept =>
          let others ← importExtra rest
          return (key, kept) :: others
      | none =>
          Run.discard key
            (.unexpectedValue "a string or an array of strings")
          importExtra rest

end Import

def importRepository
    (check : Acceptance)
    (entries : List (String × Json.Object)) :
    Run Repository :=
  Import.importEntries check .empty entries

/-
  Import a document.  The repository goes before the root
  rules, and these before the other fields.
-/
def importGrammar
    (check : Acceptance)
    (document : Document) : Run Grammar := do
  let repository ← importRepository check document.repository
  let patterns ← Import.importPatterns check 0 document.patterns
  let extra ← Import.importExtra document.extra
  return ⟨document.name, document.scopeName,
    document.injectionSelector, patterns, repository, extra⟩

end TextMate
