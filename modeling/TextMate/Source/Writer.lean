import TextMate.Source.OfGrammar

/-
  This file defines the writer of generated source.  It appends
  text, and it registers each item of the library where the
  text refers to it.  When all is written, the items make up
  the line of the imports.

  Key definitions include:
    * `Writer`
    * `Writing`
    * `useLine`
    * `writeRule`
    * `unitText`
    * `indexText`
    * `grammarText`
-/

namespace TextMate

namespace Source

------------------------------------------------------------
-- Writers
------------------------------------------------------------

/- The text so far, and the items that it refers to. -/
structure Writer where
  text : String
  items : List Item

/- A part of the text is written. -/
abbrev Writing := StateM Writer Unit

/- Append a text. -/
def push
    (text : String) : Writing :=
  modify fun writer =>
    { writer with text := writer.text ++ text }

/- Start a line of some depth. -/
def newline
    (depth : Nat) : Writing :=
  push (String.ofList ('\n' :: Token.indentation depth))

/- Register an item, once. -/
def uses
    (item : Item) : Writing :=
  modify fun writer =>
    { writer with items := writer.items.insert item }

/- What is there when all is written. -/
def written
    (writing : Writing) : Writer :=
  (writing.run ⟨"", []⟩).2

/- The line that imports items. -/
def useLine
    (items : List Item) : String :=
  "use tmgrammar::\x7b" ++
    String.intercalate ", " (items.map Item.name) ++ "\x7d;\n"

/- The line that imports all that is registered. -/
def Writer.useLine
    (writer : Writer) : String :=
  Source.useLine (Item.sorted writer.items)

------------------------------------------------------------
-- Rules
------------------------------------------------------------

/- A text in quotes, with escapes. -/
def quoted
    (text : String) : String :=
  String.ofList (Text.quoted text.toList)

def writePattern : PatternValue → Writing
  | .compiled pattern => do
      uses .pattern
      push ("Pattern::new(" ++ literal pattern.text ++ ").into()")
  | .verbatim text => do
      uses .patternValue
      push ("PatternValue::Text(" ++ literal text ++ ".into())")

def writeLabel
    (label : String) : Writing :=
  push (quoted label ++ ".into()")

/- Write a field on a line of its own. -/
def writeField
    (depth : Nat)
    (field : Field)
    (value : Writing) : Writing := do
  newline depth
  push (fieldName field)
  push ": Some("
  value
  push "),"

/- Write a field if it is there. -/
def writeOption
    {α : Type}
    (depth : Nat)
    (field : Field)
    (write : α → Writing) : Option α → Writing
  | none => return ()
  | some value => writeField depth field (write value)

/- Write captures around what is written for their groups. -/
def writeCaptures
    (depth : Nat)
    (isEmpty : Bool)
    (groups : Writing) : Writing := do
  uses .captures
  if isEmpty then push "Captures::new()"
  else
    push "Captures::from(["
    groups
    newline depth
    push "])"

/- Write a vector around what is written for its rules. -/
def writeChildren
    (depth : Nat)
    (isEmpty : Bool)
    (rules : Writing) : Writing :=
  if isEmpty then push "vec![]"
  else do
    push "vec!["
    rules
    newline depth
    push "]"

/- Write where the fields come from that are left out. -/
def writeRest
    (depth : Nat)
    (item : Item)
    (isPartial : Bool) : Writing :=
  if isPartial then do
    newline depth
    push (".." ++ item.name ++ "::default()")
  else return ()

/- Write the record of a rule around its fields, if any. -/
def writeScope
    (depth : Nat)
    (count : Nat)
    (fields : Writing) : Writing := do
  uses .scope
  if count = 0 then push "Scope::default()"
  else
    push "Scope \x7b"
    fields
    writeRest (depth + 1) .scope (count < Field.all.length)
    newline depth
    push "\x7d"

/- Write a rule. -/
mutual

def writeRule
    (depth : Nat) : Rule → Writing
  | ⟨i, m, b, e, w, n, c, cs, bs, es, ws, ps⟩ =>
      let rule : Rule :=
        ⟨i, m, b, e, w, n, c, cs, bs, es, ws, ps⟩
      writeScope depth rule.fields.length do
        writeOption (depth + 1) .includeTarget writeLabel i
        writeOption (depth + 1) .matchPattern writePattern m
        writeOption (depth + 1) .beginPattern writePattern b
        writeOption (depth + 1) .endPattern writePattern e
        writeOption (depth + 1) .whilePattern writePattern w
        writeOption (depth + 1) .name writeLabel n
        writeOption (depth + 1) .contentName writeLabel c
        writeCapturesField (depth + 1) .captures cs
        writeCapturesField (depth + 1) .beginCaptures bs
        writeCapturesField (depth + 1) .endCaptures es
        writeCapturesField (depth + 1) .whileCaptures ws
        writeChildrenField (depth + 1) .patterns ps
termination_by structural x => x

/- Write the field for captures if they are there. -/
def writeCapturesField
    (depth : Nat)
    (field : Field) :
    Option (List (UInt32 × Rule)) → Writing
  | none => return ()
  | some captures =>
      writeField depth field
        (writeCaptures depth captures.isEmpty
          (writeGroups (depth + 1) captures))
termination_by structural x => x

/- Write the entries of captures. -/
def writeGroups
    (depth : Nat) : List (UInt32 × Rule) → Writing
  | [] => return ()
  | (index, rule) :: rest => do
      newline depth
      push ("(" ++ toString index ++ ", ")
      writeRule depth rule
      push "),"
      writeGroups depth rest
termination_by structural x => x

/- Write the field for nested rules if they are there. -/
def writeChildrenField
    (depth : Nat)
    (field : Field) :
    Option (List Rule) → Writing
  | none => return ()
  | some rules =>
      writeField depth field
        (writeChildren depth rules.isEmpty
          (writeRules (depth + 1) rules))
termination_by structural x => x

def writeRules
    (depth : Nat) : List Rule → Writing
  | [] => return ()
  | rule :: rest => do
      newline depth
      writeRule depth rule
      push ","
      writeRules depth rest
termination_by structural x => x

end

------------------------------------------------------------
-- Grammars
------------------------------------------------------------

/- The text of a root field that is kept as it is. -/
def extraText : ExtraValue → String
  | .text value =>
      "ExtraValue::Text(" ++ quoted value ++ ".into())"
  | .list values =>
      let texts := values.map fun value =>
        quoted value ++ ".into()"
      "ExtraValue::List(vec![" ++
        String.intercalate ", " texts ++ "])"

def writeText
    (name : String)
    (text : String) : Writing := do
  newline 2
  push (name ++ ": " ++ quoted text ++ ".into(),")

/- Write the selector of a grammar, if it is there. -/
def writeSelector : Option String → Writing
  | none => return ()
  | some selector => do
      newline 2
      push
        ("injection_selector: Some(" ++ quoted selector ++
          ".into()),")

/- Write the root rules of a grammar. -/
def writePatterns
    (rules : List Rule) : Writing := do
  newline 2
  push "patterns: "
  writeChildren 2 rules.isEmpty (writeRules 3 rules)
  push ","

def writeLink
    (link : String × String) : Writing := do
  newline 3
  push
    ("(" ++ quoted link.1 ++ ", repository::" ++ link.2 ++
      "()),")

/- Write the entries of a grammar that are linked, if any. -/
def writeLinks
    (links : Links) : Writing :=
  if links.isEmpty then return ()
  else do
    uses .repository
    newline 2
    push "repository: Repository::merge(["
    links.forM writeLink
    newline 2
    push "])?,"

/- Write a root field that is kept as it is. -/
def writeExtraField
    (extra : String × ExtraValue) : Writing := do
  newline 3
  push
    ("(" ++ quoted extra.1 ++ ".into(), " ++
      extraText extra.2 ++ "),")

/- Write the root fields that are kept, if any. -/
def writeExtra
    (extra : List (String × ExtraValue)) : Writing :=
  if extra.isEmpty then return ()
  else do
    newline 2
    push "extra: "
    uses .extraValue
    push "vec!["
    extra.forM writeExtraField
    newline 2
    push "],"

def writeGrammarFields
    (grammar : Grammar)
    (links : Links) : Writing := do
  writeText "name" grammar.name
  writeText "scope_name" grammar.scopeName
  writeSelector grammar.injectionSelector
  writePatterns grammar.patterns
  writeLinks links
  writeExtra grammar.extra

def writeGrammar
    (grammar : Grammar)
    (links : Links) : Writing := do
  uses .error
  uses .grammar
  push "pub fn grammar() -> Result<Grammar, Error> \x7b"
  newline 1
  push "Ok(Grammar \x7b"
  writeGrammarFields grammar links
  writeRest 2 .grammar !(isWhole grammar links)
  newline 1
  push "\x7d)"
  newline 0
  push "\x7d\n"

/- Write the function of a repository entry. -/
def writeUnit
    (identifier : String)
    (rule : Rule) : Writing := do
  push ("pub fn " ++ identifier ++ "() -> Scope \x7b")
  newline 1
  writeRule 1 rule
  newline 0
  push "\x7d\n"

------------------------------------------------------------
-- Files
------------------------------------------------------------

/- The text of the file of a repository entry. -/
def unitText
    (identifier : String)
    (rule : Rule) : String :=
  let writer := written (writeUnit identifier rule)
  writer.useLine ++ "\n" ++ writer.text

def moduleLine
    (name : String) : String :=
  "mod " ++ name ++ ";\n"

def exportLine
    (name : String) : String :=
  "pub use " ++ name ++ "::" ++ name ++ ";\n"

/- The text of the file that brings units together. -/
def indexText
    (identifiers : List String) : String :=
  String.join
    (identifiers.map moduleLine ++
      "\n" :: identifiers.map exportLine)

/- The text of the file of a grammar with linked entries. -/
def grammarText
    (grammar : Grammar)
    (links : Links) : String :=
  let writer := written (writeGrammar grammar links)
  let modules :=
    if links.isEmpty then "" else "\npub mod repository;\n"
  writer.useLine ++ modules ++ "\n" ++ writer.text

end Source

/- The generated source of a rule alone. -/
def Rule.sourceText
    (rule : Rule) : String :=
  (Source.written (Source.writeRule 0 rule)).text

end TextMate
