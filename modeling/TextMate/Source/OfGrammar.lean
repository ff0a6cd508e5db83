import TextMate.Grammar
import TextMate.Source.File

/-
  This file defines the generated source of rules, repository
  entries and grammars: expressions that build them again.

  Fields that are absent are left to the default of a record.

  Key definitions include:
    * `fieldName`
    * `ofRule`
    * `ofGrammar`
    * `unitFile`
    * `indexFile`
    * `grammarFile`
-/

namespace TextMate

namespace Source

------------------------------------------------------------
-- Rules
------------------------------------------------------------

/- The name of a field of a rule in generated source. -/
def fieldName : Field → String
  | .includeTarget => "include"
  | .matchPattern => "match_"
  | .beginPattern => "begin"
  | .endPattern => "end"
  | .whilePattern => "while_"
  | .name => "name"
  | .contentName => "content_name"
  | .captures => "captures"
  | .beginCaptures => "begin_captures"
  | .endCaptures => "end_captures"
  | .whileCaptures => "while_captures"
  | .patterns => "patterns"

/- A field of a record whose value is there. -/
def presentField
    (field : Field)
    (value : Expr) : String × Expr :=
  (fieldName field, .present value)

def labelField
    (field : Field) : Option String → List (String × Expr)
  | none => []
  | some label => [presentField field (.owned label)]

def ofPattern : PatternValue → Expr
  | .compiled pattern =>
      .converted (.apply .pattern "new" (.literal pattern.text))
  | .verbatim text =>
      .apply .patternValue "Text" (.converted (.literal text))

def patternField
    (field : Field) :
    Option PatternValue → List (String × Expr)
  | none => []
  | some pattern => [presentField field (ofPattern pattern)]

/-
  A record of an item, or the default of the item where no
  field is given.
-/
def recordOf
    (item : Item)
    (fields : List (String × Expr))
    (isComplete : Bool) : Expr :=
  if fields.isEmpty then .constant item "default"
  else .record item fields isComplete

/- Every field of a rule is given. -/
def hasAllFields
    (fields : List (String × Expr)) : Bool :=
  fields.length == Field.all.length

/- Captures with entries, or without. -/
def capturesOf
    (entries : List Expr) : Expr :=
  if entries.isEmpty then .constant .captures "new"
  else .apply .captures "from" (.array entries)

/- The source of a rule. -/
mutual

def ofRule : Rule → Expr
  | ⟨i, m, b, e, w, n, c, cs, bs, es, ws, ps⟩ =>
      let fields :=
        labelField .includeTarget i ++
          patternField .matchPattern m ++
          patternField .beginPattern b ++
          patternField .endPattern e ++
          patternField .whilePattern w ++
          labelField .name n ++
          labelField .contentName c ++
          capturesField .captures cs ++
          capturesField .beginCaptures bs ++
          capturesField .endCaptures es ++
          capturesField .whileCaptures ws ++
          childrenField .patterns ps
      recordOf .scope fields (hasAllFields fields)
termination_by structural x => x

/- The field for captures, if they are there. -/
def capturesField
    (field : Field) :
    Option (List (UInt32 × Rule)) → List (String × Expr)
  | none => []
  | some captures =>
      [presentField field (capturesOf (ofGroups captures))]
termination_by structural x => x

/- The source of the entries of captures. -/
def ofGroups : List (UInt32 × Rule) → List Expr
  | [] => []
  | (index, rule) :: rest =>
      .pair (.number index.toNat) (ofRule rule) ::
        ofGroups rest
termination_by structural x => x

/- The field for nested rules, if they are there. -/
def childrenField
    (field : Field) :
    Option (List Rule) → List (String × Expr)
  | none => []
  | some rules =>
      [presentField field (.vector (ofRules rules))]
termination_by structural x => x

def ofRules : List Rule → List Expr
  | [] => []
  | rule :: rest => ofRule rule :: ofRules rest
termination_by structural x => x

end

------------------------------------------------------------
-- Grammars
------------------------------------------------------------

/- Names of entries with the identifiers of their units. -/
abbrev Links := List (String × String)

/- The source of a root field that is kept as it is. -/
def ofExtraValue : ExtraValue → Expr
  | .text value =>
      .apply .extraValue "Text" (.owned value)
  | .list values =>
      .apply .extraValue "List" (.row (values.map .owned))

/- The source of a root field with its key. -/
def ofExtra
    (extra : String × ExtraValue) : Expr :=
  .pair (.owned extra.1) (ofExtraValue extra.2)

/- The source of an entry that is kept in its own unit. -/
def ofLink
    (link : String × String) : Expr :=
  .pair (.quoted link.1) (.call (.entry link.2) [])

def grammarFields
    (grammar : Grammar)
    (links : Links) : List (String × Expr) :=
  [("name", .owned grammar.name),
    ("scope_name", .owned grammar.scopeName)] ++
    (match grammar.injectionSelector with
      | some selector =>
          [("injection_selector", .present (.owned selector))]
      | none => []) ++
    [("patterns", .vector (ofRules grammar.patterns))] ++
    (if links.isEmpty then []
      else
        [("repository",
          .checked (.apply .repository "merge"
            (.array (links.map ofLink))))]) ++
    (if grammar.extra.isEmpty then []
      else
        [("extra", .vector (grammar.extra.map ofExtra))])

/- Every field of a grammar is given. -/
def isWhole
    (grammar : Grammar)
    (links : Links) : Bool :=
  grammar.injectionSelector.isSome && !links.isEmpty &&
    !grammar.extra.isEmpty

/- The source of a grammar whose entries are linked. -/
def ofGrammar
    (grammar : Grammar)
    (links : Links) : Expr :=
  .call (.variant "Ok")
    [.record .grammar (grammarFields grammar links)
      (isWhole grammar links)]

------------------------------------------------------------
-- Files
------------------------------------------------------------

/- The file of a repository entry. -/
def unitFile
    (identifier : String)
    (rule : Rule) : File :=
  .ofFunction ⟨identifier, .plain .scope, ofRule rule⟩ []

/- The file that brings the functions of units together. -/
def indexFile
    (identifiers : List String) : File :=
  [identifiers.map fun name => .submodule name false,
    identifiers.map fun name => .reexport name name]

/- The file of a grammar whose entries are linked. -/
def grammarFile
    (grammar : Grammar)
    (links : Links) : File :=
  .ofFunction
    ⟨"grammar", .result .grammar, ofGrammar grammar links⟩
    (if links.isEmpty then []
      else [.submodule "repository" true])

end Source

end TextMate
