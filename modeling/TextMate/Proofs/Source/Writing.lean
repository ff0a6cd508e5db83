import TextMate.Source.Writer
import TextMate.Proofs.Source.RuleSource

/-
  This file proves that the writer of a rule appends the text of
  an expression, and registers just the items that this names,
  whatever was written before.

  Main declarations:
    * `Writes`
    * `Writes.seq`
    * `writeRule_eq`
    * `WritesExpr`
    * `writes_writeRule`
-/

namespace TextMate

namespace Source

------------------------------------------------------------
-- Texts of Tokens
------------------------------------------------------------

/- Texts of tokens are appended. -/
theorem textOf_append
    (first second : List Token) :
    Token.textOf (first ++ second) =
      Token.textOf first ++ Token.textOf second := by
  simp [Token.textOf]

theorem textOf_comma :
    Token.textOf [.sign ','] = "," := by
  decide

/- A line that holds nothing. -/
theorem textOf_emptyLine :
    Token.textOf [.line 0] = "\n" := by
  decide

/- The start of a vector that is not empty. -/
theorem textOf_vectorStart :
    Token.textOf [.word "vec", .sign '!', .sign '['] =
      "vec![" := by
  decide

/- The end of an array that a function is called with. -/
theorem textOf_arrayEnd :
    Token.textOf [.sign ']', .sign ')'] = "])" := by
  decide

/- The end of a line in parentheses. -/
theorem textOf_itemEnd :
    Token.textOf [.sign ')', .sign ','] = ")," := by
  decide

/- The last line of a function. -/
theorem textOf_functionEnd :
    Token.textOf [.sign '\x7d', .line 0] = "\x7d\n" := by
  decide

------------------------------------------------------------
-- Parts of the Text
------------------------------------------------------------

/-
  The tokens are appended to what is written, and the items are
  registered beside those that are.
-/
def Writes
    (writing : Writing)
    (tokens : List Token)
    (items : List Item) : Prop :=
  ∀ writer : Writer,
    let after := (writing.run writer).2
    after.text = writer.text ++ Token.textOf tokens ∧
      ∀ item,
        item ∈ after.items ↔ item ∈ writer.items ∨ item ∈ items

namespace Writes

variable {first second : Writing}
variable {tokens others : List Token}
variable {items more : List Item}

theorem pure :
    Writes (pure ()) [] [] := by
  intro writer
  exact
    ⟨String.append_empty.symm, fun item =>
      (or_iff_left List.not_mem_nil).symm⟩

theorem push
    {text : String}
    (hText : Token.textOf tokens = text) :
    Writes (push text) tokens [] := by
  intro writer
  rw [hText]
  exact ⟨rfl, fun item => (or_iff_left List.not_mem_nil).symm⟩

theorem newline
    (depth : Nat) :
    Writes (newline depth) [.line depth] [] :=
  push (by simp [Token.textOf, Token.chars])

theorem uses
    (item : Item) :
    Writes (uses item) [] [item] := by
  intro writer
  refine ⟨String.append_empty.symm, fun other => ?_⟩
  show other ∈ writer.items.insert item ↔ _
  rw [List.mem_insert_iff, List.mem_singleton, or_comm]

/- What is written in sequence is appended in sequence. -/
theorem seq
    (hFirst : Writes first tokens items)
    (hSecond : Writes second others more) :
    Writes (do first; second) (tokens ++ others)
      (items ++ more) := by
  intro writer
  rcases hFirst writer with ⟨hText, hItems⟩
  rcases hSecond (first.run writer).2 with ⟨hLast, hMore⟩
  refine ⟨?_, fun item => ?_⟩
  · rw [textOf_append, ← String.append_assoc, ← hText]
    exact hLast
  · rw [List.mem_append, ← or_assoc, ← hItems]
    exact hMore item

/- Items may be given in another order, and more than once. -/
theorem congr
    (hWrites : Writes first tokens items)
    (hTokens : tokens = others)
    (hItems : ∀ item, item ∈ items ↔ item ∈ more) :
    Writes first others more := by
  intro writer
  rw [← hTokens]
  simp only [← hItems]
  exact hWrites writer

/- What is written for each of some parts is appended. -/
theorem forM
    {α : Type}
    {parts : List α}
    {write : α → Writing}
    {tokensOf : α → List Token}
    {itemsOf : α → List Item}
    (hParts :
      ∀ part ∈ parts,
        Writes (write part) (tokensOf part) (itemsOf part)) :
    Writes (parts.forM write) (parts.flatMap tokensOf)
      (parts.flatMap itemsOf) := by
  induction parts with
  | nil => exact pure
  | cons part parts ih =>
      exact
        (hParts part List.mem_cons_self).seq
          (ih fun other hOther =>
            hParts other (List.mem_cons_of_mem part hOther))

end Writes

------------------------------------------------------------
-- Fields of Rules
------------------------------------------------------------

/- Write the value of a field. -/
def writeValue
    (depth : Nat) : FieldValue → Writing
  | .pattern value => writePattern value
  | .label value => writeLabel value
  | .captures entries =>
      writeCaptures depth entries.isEmpty
        (writeGroups (depth + 1) entries)
  | .children rules =>
      writeChildren depth rules.isEmpty
        (writeRules (depth + 1) rules)

/- Write a field with its value. -/
def writeEntry
    (depth : Nat)
    (entry : Field × FieldValue) : Writing :=
  writeField depth entry.1 (writeValue depth entry.2)

/- The writer of a rule goes through its fields in order. -/
theorem writeRule_eq
    (depth : Nat)
    (rule : Rule) :
    writeRule depth rule =
      writeScope depth rule.fields.length
        (rule.fields.forM (writeEntry (depth + 1))) := by
  have hOption :
      ∀ {α : Type} (field : Field) (make : α → FieldValue)
        (write : α → Writing) (value : Option α),
        (∀ value,
          writeValue (depth + 1) (make value) = write value) →
        writeOption (depth + 1) field write value =
          (((value.map make).toList.map fun value =>
            (field, value)).forM (writeEntry (depth + 1))) := by
    intro α field make write value hMake
    cases value with
    | none => rfl
    | some value => simp [writeOption, writeEntry, hMake]
  have hCaptures :
      ∀ (field : Field) (captures : Option Captures),
        writeCapturesField (depth + 1) field captures =
          (((captures.map FieldValue.captures).toList.map
            fun value => (field, value)).forM
              (writeEntry (depth + 1))) := by
    intro field captures
    cases captures with
    | none => rfl
    | some captures =>
        simp [writeCapturesField, writeEntry, writeValue]
  have hChildren :
      ∀ (field : Field) (rules : Option (List Rule)),
        writeChildrenField (depth + 1) field rules =
          (((rules.map FieldValue.children).toList.map
            fun value => (field, value)).forM
              (writeEntry (depth + 1))) := by
    intro field rules
    cases rules with
    | none => rfl
    | some rules =>
        simp [writeChildrenField, writeEntry, writeValue]
  have hLabel := fun field value =>
    hOption field FieldValue.label writeLabel value fun _ => rfl
  have hPattern := fun field value =>
    hOption field FieldValue.pattern writePattern value
      fun _ => rfl
  cases rule
  simp only [writeRule, hLabel, hPattern, hCaptures, hChildren]
  congr 1
  simp only [Rule.fields_eq_flatMap, Field.all,
    List.flatMap_cons, List.flatMap_nil, List.append_nil,
    Rule.get?, List.forM_eq_forM, List.forM_append]

------------------------------------------------------------
-- Rules
------------------------------------------------------------

/- The writer writes an expression on a line of any depth. -/
def WritesExpr
    (write : Nat → Writing)
    (expr : Expr) : Prop :=
  ∀ depth, Writes (write depth) (expr.tokens depth) expr.items

/- The value of a pattern field refers to its type. -/
theorem writes_writePattern
    (value : PatternValue) :
    WritesExpr (fun _ => writePattern value)
      (ofPattern value) := by
  intro depth
  cases value with
  | compiled pattern =>
      have hText :
          Token.textOf ((ofPattern (.compiled pattern)).tokens
              depth) =
            "Pattern::new(" ++ literal pattern.text ++
              ").into()" := by
        apply String.toList_injective
        simp [ofPattern, Expr.apply, Expr.tokens,
          Expr.rowTokens, Callee.tokens, pathSign, signs,
          Token.textOf, Token.chars, literal, Item.name]
      exact (Writes.uses .pattern).seq (.push hText)
  | verbatim text =>
      have hText :
          Token.textOf ((ofPattern (.verbatim text)).tokens
              depth) =
            "PatternValue::Text(" ++ literal text ++
              ".into())" := by
        apply String.toList_injective
        simp [ofPattern, Expr.apply, Expr.tokens,
          Expr.rowTokens, Callee.tokens, pathSign, signs,
          Token.textOf, Token.chars, literal, Item.name]
      exact (Writes.uses .patternValue).seq (.push hText)

/- The value of a label field refers to nothing. -/
theorem writes_writeLabel
    (label : String) :
    WritesExpr (fun _ => writeLabel label) (.owned label) := by
  intro depth
  refine Writes.push ?_
  apply String.toList_injective
  simp [Expr.owned, Expr.tokens, Token.textOf, Token.chars,
    quoted]

/- The groups of captures have a line each. -/
theorem writes_writeGroups
    {captures : Captures}
    (hRules :
      ∀ entry ∈ captures,
        WritesExpr (writeRule · entry.2) (ofRule entry.2))
    (depth : Nat) :
    Writes (writeGroups depth captures)
      (Expr.partTokens depth (captures.map ofGroup))
      (Expr.partItems (captures.map ofGroup)) := by
  induction captures with
  | nil => exact .pure
  | cons entry captures ih =>
      have hOpen :
          Token.textOf
              [.sign '(', .number entry.1.toNat, .sign ',',
                .blank] =
            "(" ++ toString entry.1 ++ ", " := by
        apply String.toList_injective
        have hIndex : toString entry.1 = entry.1.toNat.repr := rfl
        simp [Token.textOf, Token.chars, hIndex, Nat.repr]
      have hRule := hRules entry List.mem_cons_self depth
      have hRest :=
        ih fun other hOther =>
          hRules other (List.mem_cons_of_mem entry hOther)
      refine
        ((Writes.newline depth).seq ((Writes.push hOpen).seq
          (hRule.seq ((Writes.push textOf_itemEnd).seq
            hRest)))).congr ?_ ?_
      · simp [Expr.partTokens, ofGroup, Expr.tokens]
      · simp [Expr.partItems, ofGroup, Expr.items]

/- Rules have a line each. -/
theorem writes_writeRules
    {rules : List Rule}
    (hRules :
      ∀ rule ∈ rules, WritesExpr (writeRule · rule) (ofRule rule))
    (depth : Nat) :
    Writes (writeRules depth rules)
      (Expr.partTokens depth (rules.map ofRule))
      (Expr.partItems (rules.map ofRule)) := by
  induction rules with
  | nil => exact .pure
  | cons rule rules ih =>
      have hRule := hRules rule List.mem_cons_self depth
      have hRest :=
        ih fun other hOther =>
          hRules other (List.mem_cons_of_mem rule hOther)
      exact
        (Writes.newline depth).seq
          (hRule.seq ((Writes.push textOf_comma).seq hRest))

/- A vector has a line for each rule, and one for its end. -/
theorem writes_writeChildren
    (rules : List Rule)
    {depth : Nat}
    (hRules :
      Writes (writeRules (depth + 1) rules)
        (Expr.partTokens (depth + 1) (rules.map ofRule))
        (Expr.partItems (rules.map ofRule))) :
    let vector : Expr := .vector (rules.map ofRule)
    Writes
      (writeChildren depth rules.isEmpty
        (writeRules (depth + 1) rules))
      (vector.tokens depth) vector.items := by
  intro vector
  cases rules with
  | nil =>
      have hEmpty :
          Token.textOf ((Expr.vector []).tokens depth) =
            "vec![]" := by
        rfl
      exact .push hEmpty
  | cons rule rules =>
      have hClose : Token.textOf [.sign ']'] = "]" := by decide
      refine
        ((Writes.push textOf_vectorStart).seq (hRules.seq
          ((Writes.newline depth).seq (.push hClose)))).congr
            ?_ ?_
      · simp [vector, Expr.tokens, closingLine]
      · simp [vector, Expr.items]

/- The value of a field is written as its rules are. -/
theorem writes_writeValue
    {value : FieldValue}
    (hInner :
      ∀ inner ∈ value.rules,
        WritesExpr (writeRule · inner) (ofRule inner)) :
    WritesExpr (writeValue · value) (ofFieldValue value) := by
  intro depth
  cases value with
  | pattern value => exact writes_writePattern value depth
  | label value => exact writes_writeLabel value depth
  | captures entries =>
      have hGroups :=
        writes_writeGroups
          (fun entry hEntry =>
            hInner entry.2 (List.mem_map_of_mem hEntry))
          (depth + 1)
      cases entries with
      | nil =>
          have hNew :
              Token.textOf
                  ((Expr.constant .captures "new").tokens
                    depth) =
                "Captures::new()" := by
            rfl
          exact (Writes.uses .captures).seq (.push hNew)
      | cons entry entries =>
          have hOpen :
              Token.textOf
                  ((Callee.member .captures "from").tokens ++
                    [Token.sign '(', .sign '[']) =
                "Captures::from([" := by
            decide
          refine
            ((Writes.uses .captures).seq
              ((Writes.push hOpen).seq (hGroups.seq
                ((Writes.newline depth).seq
                  (.push textOf_arrayEnd))))).congr ?_ ?_
          · simp [ofFieldValue, capturesOf, Expr.apply,
              Expr.tokens, Expr.rowTokens, closingLine]
          · simp [ofFieldValue, capturesOf, Expr.apply,
              Expr.items, Expr.partItems, Callee.items]
  | children rules =>
      have hRules := writes_writeRules hInner (depth + 1)
      exact writes_writeChildren rules hRules

/- A field has a line, with its value in an option. -/
theorem writes_writeFields
    {entries : List (Field × FieldValue)}
    (hEntries :
      ∀ entry ∈ entries,
        WritesExpr (writeValue · entry.2)
          (ofFieldValue entry.2))
    (depth : Nat) :
    Writes (entries.forM (writeEntry depth))
      (Expr.fieldTokens depth (entries.map ofField))
      (Expr.fieldItems (entries.map ofField)) := by
  induction entries with
  | nil => exact .pure
  | cons entry entries ih =>
      have hName :
          Token.textOf [.word (fieldName entry.1)] =
            fieldName entry.1 := by
        simp [Token.textOf, Token.chars]
      have hOpen :
          Token.textOf
              [.sign ':', .blank, .word "Some", .sign '('] =
            ": Some(" := by
        decide
      have hValue := hEntries entry List.mem_cons_self depth
      have hRest :=
        ih fun other hOther =>
          hEntries other (List.mem_cons_of_mem entry hOther)
      have hEntry :=
        (Writes.newline depth).seq ((Writes.push hName).seq
          ((Writes.push hOpen).seq
            (hValue.seq (.push textOf_itemEnd))))
      refine (hEntry.seq hRest).congr ?_ ?_
      · simp [Expr.fieldTokens, ofField, presentField,
          Expr.present, Expr.tokens, Expr.rowTokens,
          Callee.tokens]
      · simp [Expr.fieldItems, ofField, presentField,
          Expr.present, Expr.items, Expr.partItems,
          Callee.items]

/- What a record leaves out comes from the default. -/
theorem writes_writeRest
    (item : Item)
    (depth : Nat)
    (isPartial : Bool) :
    Writes (writeRest depth item isPartial)
      (if isPartial then defaultTokens item depth else []) [] := by
  cases isPartial with
  | false => exact .pure
  | true =>
      have hText :
          Token.textOf
              (signs ['.', '.'] ++
                (Callee.member item "default").tokens ++
                signs ['(', ')']) =
            ".." ++ item.name ++ "::default()" := by
        cases item <;> decide
      exact (Writes.newline depth).seq (.push hText)

/- A rule is written as a record of its fields, if any. -/
theorem writes_writeScope
    {entries : List (Field × FieldValue)}
    {fields : Writing}
    {depth : Nat}
    (hLength : entries.length ≤ Field.all.length)
    (hFields :
      Writes fields
        (Expr.fieldTokens (depth + 1) (entries.map ofField))
        (Expr.fieldItems (entries.map ofField))) :
    let record :=
      recordOf .scope (entries.map ofField)
        (hasAllFields (entries.map ofField))
    Writes (writeScope depth entries.length fields)
      (record.tokens depth) record.items := by
  intro record
  cases entries with
  | nil =>
      have hDefault :
          Token.textOf
              ((Expr.constant .scope "default").tokens depth) =
            "Scope::default()" := by
        rfl
      exact (Writes.uses .scope).seq (.push hDefault)
  | cons entry entries =>
      have hPartial :
          decide ((entry :: entries).length < Field.all.length) =
            !hasAllFields ((entry :: entries).map ofField) := by
        rw [hasAllFields, List.length_map, Bool.eq_iff_iff,
          Bool.not_eq_true', beq_eq_false_iff_ne,
          decide_eq_true_eq]
        omega
      have hOpen :
          Token.textOf [.word "Scope", .blank, .sign '\x7b'] =
            "Scope \x7b" := by
        decide
      have hClose :
          Token.textOf [.sign '\x7d'] = "\x7d" := by
        decide
      have hRest :=
        writes_writeRest .scope (depth + 1)
          ((entry :: entries).length < Field.all.length)
      refine
        ((Writes.uses .scope).seq
          ((Writes.push hOpen).seq (hFields.seq
            (hRest.seq ((Writes.newline depth).seq
              (.push hClose)))))).congr ?_ ?_
      · have hRecord :
            record =
              .record .scope ((entry :: entries).map ofField)
                (hasAllFields
                  ((entry :: entries).map ofField)) :=
          rfl
        rw [hRecord, hPartial]
        generalize (entry :: entries).map ofField = given
        cases hasAllFields given <;>
          simp [Expr.tokens, Item.name]
      · simp [record, recordOf, Expr.items]

/-
  The writer of a rule appends the source of the rule, and
  registers the items that are in it.
-/
theorem writes_writeRule
    (rule : Rule) :
    WritesExpr (writeRule · rule) (ofRule rule) := by
  induction rule using Rule.induction with
  | step rule ih =>
      intro depth
      have hFields :=
        writes_writeFields
          (fun entry hEntry =>
            writes_writeValue
              (ih entry.1 entry.2
                ((rule.mem_fields_iff _ _).mp hEntry)))
          (depth + 1)
      have hLength : rule.fields.length ≤ Field.all.length :=
        List.length_filterMap_le _ _
      simp only [writeRule_eq, ofRule_eq]
      exact writes_writeScope hLength hFields

end Source

end TextMate
