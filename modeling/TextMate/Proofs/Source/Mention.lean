import TextMate.Proofs.Source.RuleSource
import TextMate.Proofs.Source.TermValue

/-
  This file finds the library items that an expression mentions
  in the lexemes that it is read as.

  A word of an expression is the name of an item, or a name that
  the expression has for a field or for what it calls, or one of
  few words that are part of the notation.  So if no name of the
  expression is that of an item, the items that it mentions are
  the ones that are collected from it.

  Main declarations:
    * `Item.name_injective`
    * `isItemName`
    * `Expr.names`
    * `mem_lexemes_expr_iff`
    * `Expr.NamesNoItem`
    * `namesNoItem_ofRule`
    * `namesNoItem_ofGrammar`
-/

namespace TextMate

namespace Source

------------------------------------------------------------
-- Names of Items
------------------------------------------------------------

/- Items are known from their names. -/
theorem Item.name_injective :
    Function.Injective Item.name := by
  intro first second hName
  cases first <;> cases second <;>
    first
      | rfl
      | exact absurd hName (by decide)

/- The word is the name of an item. -/
def isItemName
    (word : String) : Bool :=
  (Item.all.map Item.name).contains word

/- Another word is not the name of any item. -/
theorem Item.name_ne
    {word : String}
    (hOther : isItemName word = false)
    (item : Item) :
    item.name ≠ word := by
  rintro rfl
  have hName : isItemName item.name = true :=
    List.contains_iff_mem.mpr
      (List.mem_map_of_mem (Item.mem_all item))
  rw [hOther] at hName
  cases hName

------------------------------------------------------------
-- Names in Expressions
------------------------------------------------------------

/- The name of what is called, without that of an item. -/
def Callee.name : Callee → String
  | .variant name | .member _ name | .entry name => name

namespace Expr

/- The names of fields and of what an expression calls. -/
mutual

def names : Expr → List String
  | .quoted _ | .literal _ | .number _ => []
  | .call callee arguments => callee.name :: partNames arguments
  | .converted expr | .checked expr => expr.names
  | .pair first second => first.names ++ second.names
  | .array parts | .vector parts | .row parts =>
      partNames parts
  | .record _ fields _ => recordNames fields
termination_by structural x => x

/- The names in parts. -/
def partNames : List Expr → List String
  | [] => []
  | part :: parts => part.names ++ partNames parts
termination_by structural x => x

/- The names of the fields of a record, and those in them. -/
def recordNames : List (String × Expr) → List String
  | [] => []
  | (name, value) :: fields =>
      name :: (value.names ++ recordNames fields)
termination_by structural x => x

end

theorem partNames_eq_flatMap
    (parts : List Expr) :
    partNames parts = parts.flatMap names := by
  induction parts with
  | nil => rfl
  | cons part parts ih =>
      rw [partNames, ih]
      rfl

theorem recordNames_eq_flatMap
    (fields : List (String × Expr)) :
    recordNames fields =
      fields.flatMap fun field => field.1 :: field.2.names := by
  induction fields with
  | nil => rfl
  | cons field fields ih =>
      rw [recordNames, ih]
      rfl

end Expr

------------------------------------------------------------
-- Words of Expressions
------------------------------------------------------------

section Words

variable {item : Item}

/- The words of the notation are not the names of items. -/
theorem Item.name_ne_notation
    (item : Item) :
    item.name ≠ "into" ∧ item.name ≠ "vec" ∧
      item.name ≠ "repository" ∧ item.name ≠ "default" := by
  cases item <;> decide

/- What is called mentions an item, or has its name. -/
theorem mem_lexemes_callee_iff
    (callee : Callee) :
    .word item.name ∈ lexemes callee.tokens ↔
      item ∈ callee.items ∨ item.name = callee.name := by
  have hNotation := item.name_ne_notation
  cases callee <;>
    simp [Callee.tokens, Callee.items, Callee.name, pathSign,
      signs, Item.name_injective.eq_iff, hNotation]

/- A record is taken from the default of its item. -/
theorem mem_lexemes_default_iff
    (other : Item)
    (depth : Nat) :
    .word item.name ∈ lexemes (defaultTokens other depth) ↔
      item = other := by
  have hNotation := item.name_ne_notation
  simp [defaultTokens, Callee.tokens, pathSign, signs,
    Item.name_injective.eq_iff, hNotation]

/- A part mentions what it does on a line of any depth. -/
def Mentions
    (item : Item)
    (expr : Expr) : Prop :=
  ∀ depth,
    .word item.name ∈ lexemes (expr.tokens depth) ↔
      item ∈ expr.items ∨ item.name ∈ expr.names

/- Parts on one line mention what one of them does. -/
theorem mem_lexemes_row_iff
    {parts : List Expr}
    (hParts : ∀ part ∈ parts, Mentions item part)
    (depth : Nat)
    (isFirst : Bool) :
    .word item.name ∈
        lexemes (Expr.rowTokens depth isFirst parts) ↔
      item ∈ Expr.partItems parts ∨
        item.name ∈ Expr.partNames parts := by
  induction parts generalizing isFirst with
  | nil => simp [Expr.rowTokens, Expr.partItems, Expr.partNames]
  | cons part parts ih =>
      have hPart := hParts part List.mem_cons_self depth
      have hOthers :=
        ih (fun other hOther =>
            hParts other (List.mem_cons_of_mem _ hOther))
          false
      cases isFirst <;>
        simp [Expr.rowTokens, Expr.partItems, Expr.partNames,
          hPart, hOthers, or_or_or_comm]

/- Parts with a line each mention what one of them does. -/
theorem mem_lexemes_parts_iff
    {parts : List Expr}
    (hParts : ∀ part ∈ parts, Mentions item part)
    (depth : Nat) :
    .word item.name ∈ lexemes (Expr.partTokens depth parts) ↔
      item ∈ Expr.partItems parts ∨
        item.name ∈ Expr.partNames parts := by
  induction parts with
  | nil =>
      simp [Expr.partTokens, Expr.partItems, Expr.partNames]
  | cons part parts ih =>
      have hPart := hParts part List.mem_cons_self depth
      have hOthers := ih fun other hOther =>
        hParts other (List.mem_cons_of_mem _ hOther)
      simp [Expr.partTokens, Expr.partItems, Expr.partNames,
        hPart, hOthers, or_or_or_comm]

/- A record mentions what its fields do, or names a field so. -/
theorem mem_lexemes_fields_iff
    {fields : List (String × Expr)}
    (hFields : ∀ field ∈ fields, Mentions item field.2)
    (depth : Nat) :
    .word item.name ∈ lexemes (Expr.fieldTokens depth fields) ↔
      item ∈ Expr.fieldItems fields ∨
        item.name ∈ Expr.recordNames fields := by
  induction fields with
  | nil =>
      simp [Expr.fieldTokens, Expr.fieldItems, Expr.recordNames]
  | cons field fields ih =>
      rcases field with ⟨name, value⟩
      have hValue := hFields _ List.mem_cons_self depth
      have hOthers := ih fun other hOther =>
        hFields other (List.mem_cons_of_mem _ hOther)
      simp only [Expr.fieldTokens, Expr.fieldItems,
        Expr.recordNames, lexemes_line, lexemes_word,
        lexemes_sign, lexemes_blank, lexemes_append,
        List.mem_cons, List.mem_append, Lexeme.word.injEq,
        reduceCtorEq, false_or, hValue, hOthers]
      grind

/-
  An expression mentions the items that are collected from it,
  and those whose names it has for something else.
-/
theorem mem_lexemes_expr_iff
    (item : Item)
    (expr : Expr) :
    Mentions item expr := by
  have hNotation := item.name_ne_notation
  induction expr using Expr.induction with
  | quoted text | literal text | number value =>
      intro depth
      simp [Expr.tokens, Expr.items, Expr.names]
  | call callee arguments ih =>
      intro depth
      have hCallee := @mem_lexemes_callee_iff item callee
      have hRow := mem_lexemes_row_iff ih depth true
      simp only [Expr.tokens, Expr.items, Expr.names,
        lexemes_append, lexemes_sign, lexemes_nil,
        List.mem_append, List.mem_cons, List.not_mem_nil,
        reduceCtorEq, false_or, or_false, hCallee, hRow]
      grind
  | converted expr ih =>
      intro depth
      simp [Expr.tokens, Expr.items, Expr.names, ih depth,
        hNotation]
  | checked expr ih =>
      intro depth
      simp [Expr.tokens, Expr.items, Expr.names, ih depth]
  | pair first second ihFirst ihSecond =>
      intro depth
      simp [Expr.tokens, Expr.items, Expr.names,
        ihFirst depth, ihSecond depth, or_or_or_comm]
  | array parts ih | vector parts ih =>
      intro depth
      have hParts := mem_lexemes_parts_iff ih (depth + 1)
      simp [Expr.tokens, Expr.items, Expr.names, hParts,
        lexemes_closingLine, hNotation]
  | row parts ih =>
      intro depth
      have hRow := mem_lexemes_row_iff ih depth true
      simp [Expr.tokens, Expr.items, Expr.names, hRow,
        hNotation]
  | record other fields isComplete ih =>
      intro depth
      have hFields := mem_lexemes_fields_iff ih (depth + 1)
      have hDefault :=
        @mem_lexemes_default_iff item other (depth + 1)
      cases isComplete <;>
        simp only [Expr.tokens, Expr.items, Expr.names,
          lexemes_word, lexemes_blank, lexemes_sign,
          lexemes_append, lexemes_line, lexemes_nil,
          List.mem_cons, List.mem_append, List.not_mem_nil,
          Lexeme.word.injEq, Item.name_injective.eq_iff,
          reduceCtorEq, false_or, or_false, if_true,
          Bool.false_eq_true, if_false, hFields, hDefault] <;>
        grind

end Words

------------------------------------------------------------
-- Names of Fields and Functions
------------------------------------------------------------

/- No name in the expression is that of an item. -/
def Expr.NamesNoItem
    (expr : Expr) : Prop :=
  ∀ name ∈ expr.names, isItemName name = false

/- Such an expression mentions the items collected from it. -/
theorem Expr.NamesNoItem.mem_lexemes_iff
    {expr : Expr}
    (hNames : expr.NamesNoItem)
    (item : Item)
    (depth : Nat) :
    .word item.name ∈ lexemes (expr.tokens depth) ↔
      item ∈ expr.items := by
  rw [mem_lexemes_expr_iff item expr depth]
  exact or_iff_left fun hName =>
    item.name_ne (hNames _ hName) rfl

/- The names that source has for functions and variants. -/
def callNames : List String :=
  ["Ok", "Some", "new", "from", "Text", "List", "merge",
    "default"]

theorem isItemName_callNames :
    ∀ name ∈ callNames, isItemName name = false := by
  decide

/- The names of the fields of a grammar. -/
def grammarNames : List String :=
  ["name", "scope_name", "injection_selector", "patterns",
    "repository", "extra"]

theorem isItemName_grammarNames :
    ∀ name ∈ grammarNames, isItemName name = false := by
  decide

/- No field of a rule has the name of an item. -/
theorem isItemName_fieldName
    (field : Field) :
    isItemName (fieldName field) = false := by
  cases field <;> decide

section Source

variable {parts : List Expr}

/- A call has the name of what it calls. -/
theorem namesNoItem_call
    {callee : Callee}
    (hCallee : isItemName callee.name = false)
    (hParts : ∀ part ∈ parts, part.NamesNoItem) :
    (Expr.call callee parts).NamesNoItem := by
  rw [Expr.NamesNoItem, Expr.names, Expr.partNames_eq_flatMap,
    List.forall_mem_cons, List.forall_mem_flatMap]
  exact ⟨hCallee, hParts⟩

/- So has a call on one argument, and the names in this. -/
theorem namesNoItem_apply
    {callee : Callee}
    {argument : Expr}
    (hCallee : isItemName callee.name = false)
    (hArgument : argument.NamesNoItem) :
    (Expr.call callee [argument]).NamesNoItem := by
  refine namesNoItem_call hCallee ?_
  rwa [List.forall_mem_singleton]

/- A vector has the names of its parts. -/
theorem namesNoItem_vector
    (hParts : ∀ part ∈ parts, part.NamesNoItem) :
    (Expr.vector parts).NamesNoItem := by
  rw [Expr.NamesNoItem, Expr.names, Expr.partNames_eq_flatMap,
    List.forall_mem_flatMap]
  exact hParts

/- So has an array. -/
theorem namesNoItem_array
    (hParts : ∀ part ∈ parts, part.NamesNoItem) :
    (Expr.array parts).NamesNoItem :=
  namesNoItem_vector hParts

/- A record has the names of its fields, and those in them. -/
theorem namesNoItem_record
    {item : Item}
    {fields : List (String × Expr)}
    {isComplete : Bool}
    (hFields :
      ∀ field ∈ fields,
        isItemName field.1 = false ∧ field.2.NamesNoItem) :
    (Expr.record item fields isComplete).NamesNoItem := by
  rw [Expr.NamesNoItem, Expr.names, Expr.recordNames_eq_flatMap,
    List.forall_mem_flatMap]
  intro field hField
  rw [List.forall_mem_cons]
  exact hFields field hField

/- An expression without names names no item. -/
theorem namesNoItem_of_names_eq
    {expr : Expr}
    (hNames : expr.names = []) :
    expr.NamesNoItem := by
  rw [Expr.NamesNoItem, hNames]
  exact List.forall_mem_nil _

/- The source of a value names no item if its rules do not. -/
theorem namesNoItem_ofFieldValue
    {value : FieldValue}
    (hInner :
      ∀ inner ∈ value.rules, (ofRule inner).NamesNoItem) :
    (ofFieldValue value).NamesNoItem := by
  have hCalls := isItemName_callNames
  cases value with
  | pattern value =>
      cases value with
      | compiled pattern =>
          exact
            namesNoItem_apply (hCalls "new" (by decide))
              (namesNoItem_of_names_eq rfl)
      | verbatim text =>
          exact
            namesNoItem_apply (hCalls "Text" (by decide))
              (namesNoItem_of_names_eq rfl)
  | label value => exact namesNoItem_of_names_eq rfl
  | captures entries =>
      have hGroups :
          ∀ part ∈ entries.map ofGroup, part.NamesNoItem := by
        intro part hPart
        rcases List.mem_map.mp hPart with ⟨entry, hEntry, rfl⟩
        exact hInner entry.2 (List.mem_map_of_mem hEntry)
      rw [ofFieldValue, capturesOf]
      split
      · exact
          namesNoItem_call (hCalls "new" (by decide))
            (List.forall_mem_nil _)
      · exact
          namesNoItem_apply (hCalls "from" (by decide))
            (namesNoItem_array hGroups)
  | children rules =>
      refine namesNoItem_vector ?_
      intro part hPart
      rcases List.mem_map.mp hPart with ⟨rule, hRule, rfl⟩
      exact hInner rule hRule

/- A value that is there names no item if the value does not. -/
theorem namesNoItem_present
    {expr : Expr}
    (hNames : expr.NamesNoItem) :
    (Expr.present expr).NamesNoItem := by
  have hSome := isItemName_callNames "Some" (by decide)
  exact namesNoItem_apply hSome hNames

/- No name in the source of a rule is that of an item. -/
theorem namesNoItem_ofRule
    (rule : Rule) :
    (ofRule rule).NamesNoItem := by
  induction rule using Rule.induction with
  | step rule ih =>
      rw [ofRule_eq, recordOf]
      split
      · have hDefault :=
          isItemName_callNames "default" (by decide)
        exact
          namesNoItem_call hDefault (List.forall_mem_nil _)
      · refine namesNoItem_record ?_
        intro field hField
        rcases List.mem_map.mp hField with
          ⟨⟨key, value⟩, hEntry, rfl⟩
        have hValue := (rule.mem_fields_iff key value).mp hEntry
        exact
          ⟨isItemName_fieldName key,
            namesNoItem_present
              (namesNoItem_ofFieldValue (ih key value hValue))⟩

/- No name in the source of a root field is that of an item. -/
theorem namesNoItem_ofExtra
    (extra : String × ExtraValue) :
    (ofExtra extra).NamesNoItem := by
  have hCalls := isItemName_callNames
  rcases extra with ⟨key, value⟩
  cases value with
  | text value =>
      have hText :
          (Expr.apply .extraValue "Text"
            (.owned value)).NamesNoItem :=
        namesNoItem_apply (hCalls "Text" (by decide))
          (namesNoItem_of_names_eq rfl)
      exact hText
  | list values =>
      have hRow : (Expr.row (values.map .owned)).NamesNoItem := by
        refine namesNoItem_vector ?_
        intro part hPart
        rcases List.mem_map.mp hPart with ⟨value, -, rfl⟩
        exact namesNoItem_of_names_eq rfl
      have hList :
          (Expr.apply .extraValue "List"
            (.row (values.map .owned))).NamesNoItem :=
        namesNoItem_apply (hCalls "List" (by decide)) hRow
      exact hList

/-
  No name in the source of a grammar is that of an item, if none
  of the identifiers of its links is.
-/
theorem namesNoItem_ofGrammar
    (grammar : Grammar)
    {links : Links}
    (hLinks : ∀ link ∈ links, isItemName link.2 = false) :
    (ofGrammar grammar links).NamesNoItem := by
  have hCalls := isItemName_callNames
  have hNames := isItemName_grammarNames
  have hOwned : ∀ text, (Expr.owned text).NamesNoItem :=
    fun _ => namesNoItem_of_names_eq rfl
  have hPatterns :
      (Expr.vector (ofRules grammar.patterns)).NamesNoItem := by
    rw [ofRules_eq_map]
    refine namesNoItem_vector ?_
    rw [List.forall_mem_map]
    exact fun rule _ => namesNoItem_ofRule rule
  have hEntries :
      (Expr.checked (.apply .repository "merge"
        (.array (links.map ofLink)))).NamesNoItem := by
    refine
      namesNoItem_apply (hCalls "merge" (by decide))
        (namesNoItem_array ?_)
    rw [List.forall_mem_map]
    exact fun link hLink =>
      namesNoItem_call (hLinks link hLink)
        (List.forall_mem_nil _)
  have hExtra :
      (Expr.vector (grammar.extra.map ofExtra)).NamesNoItem := by
    refine namesNoItem_vector ?_
    rw [List.forall_mem_map]
    exact fun extra _ => namesNoItem_ofExtra extra
  refine
    namesNoItem_apply (hCalls "Ok" (by decide))
      (namesNoItem_record ?_)
  unfold grammarFields
  simp only [List.forall_mem_append, List.forall_mem_cons]
  refine ⟨⟨⟨⟨?texts, ?selector⟩, ?patterns⟩, ?entries⟩, ?extra⟩
  case texts =>
    exact
      ⟨⟨hNames "name" (by decide), hOwned grammar.name⟩,
        ⟨hNames "scope_name" (by decide),
          hOwned grammar.scopeName⟩, nofun⟩
  case selector =>
    cases grammar.injectionSelector with
    | none => exact nofun
    | some selector =>
        rw [List.forall_mem_singleton]
        exact
          ⟨hNames "injection_selector" (by decide),
            namesNoItem_present (hOwned selector)⟩
  case patterns =>
    exact ⟨⟨hNames "patterns" (by decide), hPatterns⟩, nofun⟩
  case entries =>
    split
    · exact nofun
    · rw [List.forall_mem_singleton]
      exact ⟨hNames "repository" (by decide), hEntries⟩
  case extra =>
    split
    · exact nofun
    · rw [List.forall_mem_singleton]
      exact ⟨hNames "extra" (by decide), hExtra⟩

end Source

end Source

end TextMate
