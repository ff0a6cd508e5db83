import TextMate.Source.Units
import TextMate.Proofs.Source.Parser

/-
  This file defines what source comes to: the grammar that the
  primary file of a folder builds, with the rules that the
  files of repository entries build.

  Conversions are kept as such, and read where a value of some
  type is asked for.  What is not known, not imported or of
  the wrong type is stuck, and so is what is there twice.  A
  function stops with the error of a checked result.

  Main declarations:
    * `Value`
    * `Stop`
    * `Builtin`
    * `Term.evaluate`
    * `evaluate`
-/

namespace TextMate

namespace Source

------------------------------------------------------------
-- Values
------------------------------------------------------------

/- What a term comes to. -/
inductive Value where
  | text (value : String)
  | number (value : Nat)
  | pattern (value : Pattern)
  | patternValue (value : PatternValue)
  | extraValue (value : ExtraValue)
  | rule (value : Rule)
  | captures (value : Captures)
  | repository (value : Repository)
  | grammar (value : Grammar)
  | converted (value : Value)
  | present (value : Value)
  | succeeded (value : Value)
  | failed (error : Error)
  | pair (first : Value) (second : Value)
  | array (parts : List Value)
  | vector (parts : List Value)

namespace Value

/- The text of a text that was converted to an owned one. -/
def ownedText? : Value → Option String
  | .converted (.text value) => some value
  | _ => none

/- A pattern is converted where a pattern value is asked for. -/
def patternValue? : Value → Option PatternValue
  | .patternValue value => some value
  | .converted (.pattern value) => some (.compiled value)
  | _ => none

/- The rule that a value is. -/
def rule? : Value → Option Rule
  | .rule value => some value
  | _ => none

/- The rules of a vector of them. -/
def rules? : Value → Option (List Rule)
  | .vector parts => parts.mapM rule?
  | _ => none

/- The captures that a value is. -/
def captures? : Value → Option Captures
  | .captures value => some value
  | _ => none

/- The repository that a value is. -/
def repository? : Value → Option Repository
  | .repository value => some value
  | _ => none

/- A group is an index of 32 bits with a rule. -/
def group? : Value → Option (UInt32 × Rule)
  | .pair (.number index) (.rule value) =>
      if index < UInt32.size then
        some (UInt32.ofNat index, value)
      else none
  | _ => none

/- An entry of a repository is a name with a rule. -/
def entry? : Value → Option (String × Rule)
  | .pair (.text name) (.rule value) => some (name, value)
  | _ => none

/- A root field is a key with a value. -/
def extra? : Value → Option (String × ExtraValue)
  | .pair key (.extraValue value) =>
      key.ownedText?.map fun key => (key, value)
  | _ => none

/- The root fields of a vector of them. -/
def extras? : Value → Option (List (String × ExtraValue))
  | .vector parts => parts.mapM extra?
  | _ => none

/- What is there in an optional value that has something. -/
def present? : Value → Option Value
  | .present value => some value
  | _ => none

/- The value of a field of some kind. -/
def fieldValue?
    (kind : FieldKind)
    (value : Value) : Option FieldValue :=
  match kind with
  | .pattern => value.patternValue?.map .pattern
  | .label => value.ownedText?.map .label
  | .captures => value.captures?.map .captures
  | .children => value.rules?.map .children

end Value

------------------------------------------------------------
-- The Library
------------------------------------------------------------

/- Functions that are called by their paths. -/
inductive Builtin where
  | present
  | succeeded
  | newCaptures
  | capturesFrom
  | newPattern
  | patternText
  | extraText
  | extraList
  | merge
  | defaultRule
  | defaultGrammar

namespace Builtin

/- The functions with their paths. -/
def all : List (NamePath × Builtin) :=
  [(["Some"], .present), (["Ok"], .succeeded),
    (["Captures", "new"], .newCaptures),
    (["Captures", "from"], .capturesFrom),
    (["Pattern", "new"], .newPattern),
    (["PatternValue", "Text"], .patternText),
    (["ExtraValue", "Text"], .extraText),
    (["ExtraValue", "List"], .extraList),
    (["Repository", "merge"], .merge),
    (["Scope", "default"], .defaultRule),
    (["Grammar", "default"], .defaultGrammar)]

/- What a function gives for its arguments. -/
def apply : Builtin → List Value → Option Value
  | .present, [value] => some (.present value)
  | .succeeded, [value] => some (.succeeded value)
  | .newCaptures, [] => some (.captures [])
  | .capturesFrom, [.array parts] =>
      (parts.mapM Value.group?).map fun groups =>
        .captures (.ofList groups)
  | .newPattern, [.text text] => some (.pattern (.ofText text))
  | .patternText, [value] =>
      value.ownedText?.map fun text =>
        .patternValue (.verbatim text)
  | .extraText, [value] =>
      value.ownedText?.map fun text => .extraValue (.text text)
  | .extraList, [.vector parts] =>
      (parts.mapM Value.ownedText?).map fun texts =>
        .extraValue (.list texts)
  | .merge, [.array parts] =>
      (parts.mapM Value.entry?).map fun entries =>
        match Repository.ofEntries entries with
        | .ok repository => .succeeded (.repository repository)
        | .error error => .failed error
  | .defaultRule, [] => some (.rule .empty)
  | .defaultGrammar, [] => some (.grammar .empty)
  | _, _ => none

end Builtin

/- The fields of the record for a rule, by their names. -/
def ruleFields : List (String × Field) :=
  [("include", .includeTarget), ("match_", .matchPattern),
    ("begin", .beginPattern), ("end", .endPattern),
    ("while_", .whilePattern), ("name", .name),
    ("content_name", .contentName), ("captures", .captures),
    ("begin_captures", .beginCaptures),
    ("end_captures", .endCaptures),
    ("while_captures", .whileCaptures),
    ("patterns", .patterns)]

/- Set a field of a rule, whose value has to be there. -/
def setRuleField
    (rule : Rule)
    (field : String × Value) : Option Rule := do
  let key ← ruleFields.lookup field.1
  let inner ← field.2.present?
  let value ← inner.fieldValue? key.kind
  return rule.set key value

/- The names of the fields of the record for a grammar. -/
def grammarFieldNames : List String :=
  ["name", "scope_name", "injection_selector", "patterns",
    "repository", "extra"]

/- Set a field of a grammar. -/
def setGrammarField
    (grammar : Grammar)
    (field : String × Value) : Option Grammar :=
  let (name, value) := field
  if name = "name" then
    value.ownedText?.map fun text =>
      { grammar with name := text }
  else if name = "scope_name" then
    value.ownedText?.map fun text =>
      { grammar with scopeName := text }
  else if name = "injection_selector" then
    (value.present?.bind Value.ownedText?).map fun text =>
      { grammar with injectionSelector := some text }
  else if name = "patterns" then
    value.rules?.map fun rules =>
      { grammar with patterns := rules }
  else if name = "repository" then
    value.repository?.map fun repository =>
      { grammar with repository := repository }
  else if name = "extra" then
    value.extras?.map fun extra =>
      { grammar with extra := extra }
  else none

/-
  Build a record.  No field is given twice, and without a base
  every field is given.
-/
def build
    {α : Type}
    (names : List String)
    (set : α → String × Value → Option α)
    (empty : α)
    (fields : List (String × Value))
    (base? : Option α) : Option α :=
  let given := fields.map Prod.fst
  if given.Nodup ∧ (base?.isSome ∨ ∀ name ∈ names, name ∈ given)
  then fields.foldlM set (base?.getD empty)
  else none

/- The record of an item, with the base that it is taken from. -/
def buildItem
    (item : String)
    (fields : List (String × Value))
    (base? : Option Value) : Option Value :=
  if item = "Scope" then
    match base? with
    | none =>
        (build (ruleFields.map Prod.fst) setRuleField .empty
          fields none).map .rule
    | some (.rule base) =>
        (build (ruleFields.map Prod.fst) setRuleField .empty
          fields (some base)).map .rule
    | some _ => none
  else if item = "Grammar" then
    match base? with
    | none =>
        (build grammarFieldNames setGrammarField .empty fields
          none).map .grammar
    | some (.grammar base) =>
        (build grammarFieldNames setGrammarField .empty fields
          (some base)).map .grammar
    | some _ => none
  else none

------------------------------------------------------------
-- Terms
------------------------------------------------------------

/- Why a term comes to no value. -/
inductive Stop where
  | stuck
  | thrown (error : Error)

/- What is not there is stuck. -/
def orStuck
    {α : Type} : Option α → Except Stop α
  | some value => .ok value
  | none => .error .stuck

/- What the names in a file mean. -/
structure Names where
  imports : List String
  entry : String → Except Stop Value

namespace Names

variable (names : Names)

/- An item of the library has to be imported. -/
def builtin?
    (path : NamePath) : Option Builtin :=
  match path with
  | [_] => Builtin.all.lookup path
  | [item, _] =>
      if item ∈ names.imports then Builtin.all.lookup path
      else none
  | _ => none

/- What is called at a path. -/
def call
    (path : NamePath)
    (arguments : List Value) : Except Stop Value :=
  match path, arguments with
  | ["repository", name], [] => names.entry name
  | _, _ =>
      orStuck
        ((names.builtin? path).bind fun function =>
          function.apply arguments)

/- The record of an item that is imported. -/
def record
    (path : NamePath)
    (fields : List (String × Value))
    (base? : Option Value) : Except Stop Value :=
  match path with
  | [item] =>
      if item ∈ names.imports then
        orStuck (buildItem item fields base?)
      else .error .stuck
  | _ => .error .stuck

end Names

/- The value of a result that has to be a success. -/
def Value.checked : Value → Except Stop Value
  | .succeeded value => .ok value
  | .failed error => .error (.thrown error)
  | _ => .error .stuck

namespace Term

/- The value of a term. -/
mutual

def evaluate
    (names : Names) : Term → Except Stop Value
  | .text value => .ok (.text value)
  | .number value => .ok (.number value)
  | .call path arguments => do
      names.call path (← evaluateAll names arguments)
  | .method receiver name => do
      let value ← evaluate names receiver
      if name = "into" then .ok (.converted value)
      else .error .stuck
  | .checked term => do (← evaluate names term).checked
  | .pair first second => do
      return .pair (← evaluate names first)
        (← evaluate names second)
  | .array parts => do
      return .array (← evaluateAll names parts)
  | .vector parts => do
      return .vector (← evaluateAll names parts)
  | .record path fields base => do
      let fields ← evaluateFields names fields
      names.record path fields (← evaluate? names base)
termination_by structural x => x

/- The values of terms in order. -/
def evaluateAll
    (names : Names) : List Term → Except Stop (List Value)
  | [] => .ok []
  | term :: terms => do
      let value ← evaluate names term
      return value :: (← evaluateAll names terms)
termination_by structural x => x

/- The values of the fields of a record in order. -/
def evaluateFields
    (names : Names) :
    List (String × Term) →
    Except Stop (List (String × Value))
  | [] => .ok []
  | (name, term) :: fields => do
      let value ← evaluate names term
      return (name, value) :: (← evaluateFields names fields)
termination_by structural x => x

/- The value of a term, if there is one. -/
def evaluate?
    (names : Names) : Option Term → Except Stop (Option Value)
  | none => .ok none
  | some term => do return some (← evaluate names term)
termination_by structural x => x

end

attribute [simp] evaluate evaluateAll evaluateFields evaluate?

end Term

------------------------------------------------------------
-- Files
------------------------------------------------------------

/- The only one of a list. -/
def only?
    {α : Type} : List α → Option α
  | [value] => some value
  | _ => none

/- The statements of the file at a path. -/
def fileAt?
    (files : List SourceUnit)
    (path : String) : Option (List Statement) :=
  (only? (files.filter (·.path == path))).bind fun file =>
    readSource file.text

namespace Statement

/- The items of the library that a statement imports. -/
def importedItems : Statement → List String
  | .imports library names =>
      if library = "tmgrammar" then names else []
  | _ => []

/- The statement is the submodule of a name. -/
def isSubmodule
    (name : String) : Statement → Bool
  | .submodule other => other == name
  | _ => false

/- The module from which a statement takes a function. -/
def source?
    (name : String) : Statement → Option String
  | .reexport path other =>
      if other = name then some path else none
  | _ => none

/- The function of a name. -/
def function?
    (name : String) :
    Statement → Option (Returned × Term)
  | .function other returns body =>
      if other = name then some (returns, body) else none
  | _ => none

end Statement

/- The items of the library that a file imports. -/
def importsOf
    (statements : List Statement) : List String :=
  statements.flatMap Statement.importedItems

/- The file has the submodule of a name, once. -/
def hasSubmodule
    (statements : List Statement)
    (name : String) : Bool :=
  (only? (statements.filter (Statement.isSubmodule name))).isSome

/- The type and the term of a function of a file. -/
def functionOf?
    (statements : List Statement)
    (name : String) : Option (Returned × Term) :=
  only? (statements.filterMap (Statement.function? name))

/- The statements of the unit that the index has for a name. -/
def unitOf?
    (files : List SourceUnit)
    (name : String) : Option (List Statement) := do
  let index ← fileAt? files "repository/mod.rs"
  let path ←
    only? (index.filterMap (Statement.source? name))
  if hasSubmodule index path then
    fileAt? files ("repository/" ++ path ++ ".rs")
  else none

/- A unit has no entries of its own. -/
def unitNames
    (statements : List Statement) : Names :=
  ⟨importsOf statements, fun _ => .error .stuck⟩

/- The rule that a unit has for a name. -/
def evaluateUnit
    (unit : List Statement)
    (name : String) : Except Stop Value := do
  let (returns, body) ← orStuck (functionOf? unit name)
  if returns = .plain "Scope" ∧ "Scope" ∈ importsOf unit then
    match ← body.evaluate (unitNames unit) with
    | .rule rule => .ok (.rule rule)
    | _ => .error .stuck
  else .error .stuck

/- The rule of an entry that the primary file refers to. -/
def evaluateEntry
    (files : List SourceUnit)
    (primary : List Statement)
    (name : String) : Except Stop Value := do
  if hasSubmodule primary "repository" then
    evaluateUnit (← orStuck (unitOf? files name)) name
  else .error .stuck

/- What the names in the primary file mean. -/
def primaryNames
    (files : List SourceUnit)
    (primary : List Statement) : Names :=
  ⟨importsOf primary, evaluateEntry files primary⟩

/- The grammar that a file builds, or an error. -/
def evaluatePrimary
    (files : List SourceUnit)
    (primary : List Statement) :
    Option (Except Error Grammar) := do
  let (returns, body) ← functionOf? primary "grammar"
  if returns = .result "Grammar" "Error" ∧
      "Grammar" ∈ importsOf primary ∧
      "Error" ∈ importsOf primary then
    match body.evaluate (primaryNames files primary) with
    | .ok (.succeeded (.grammar grammar)) => some (.ok grammar)
    | .ok (.failed error) => some (.error error)
    | .error (.thrown error) => some (.error error)
    | _ => none
  else none

/-
  The grammar that files build, or the error that they give.
  There is none if the source is stuck.
-/
def evaluate
    (files : List SourceUnit) :
    Option (Except Error Grammar) := do
  evaluatePrimary files (← fileAt? files "mod.rs")

end Source

end TextMate
