import TextMate.Proofs.Source.Identifier
import TextMate.Proofs.Source.Mention
import TextMate.Proofs.Source.Needs
import TextMate.Proofs.Source.Rebuild

/-
  This file proves that generated source imports just the items
  that it mentions, and that these are the ones that the rules
  and the fields in it need.

  The items of the imports are those that the writer registered
  while it wrote the text behind them.

  Main declarations:
    * `ImportsJust`
    * `importsJust_ofFunction`
    * `importsJust_unitText`, `importsJust_grammarText`
    * `files_importJust`
-/

namespace TextMate

namespace Source

------------------------------------------------------------
-- Use Lines
------------------------------------------------------------

/- The names of sorted items ascend, none of them twice. -/
theorem pairwise_sorted
    (items : List Item) :
    ((Item.sorted items).map Item.name).Pairwise (· < ·) := by
  have hAll : (Item.all.map Item.name).Pairwise (· < ·) := by
    decide
  exact hAll.sublist (List.filter_sublist.map _)

/- Sorting leaves out no item. -/
theorem mem_sorted_iff
    (item : Item)
    (items : List Item) :
    item ∈ Item.sorted items ↔ item ∈ items := by
  rw [Item.sorted, List.mem_filter, List.contains_iff_mem]
  exact and_iff_right item.mem_all

------------------------------------------------------------
-- Items of Files
------------------------------------------------------------

/-
  The text is a use line and the code behind it.  The line has
  the items that the code mentions as words, so outside of any
  text, and these are the ones that are needed.  Their names
  ascend, so that none of them is there twice.
-/
def ImportsJust
    (needed : Item → Prop)
    (text : String) : Prop :=
  ∃ (items : List Item) (code : String) (words : List Lexeme),
    text = useLine items ++ code ∧
      (items.map Item.name).Pairwise (· < ·) ∧
      lex code = some words ∧
      ∀ item,
        (item ∈ items ↔ .word item.name ∈ words) ∧
          (item ∈ items ↔ needed item)

/- A function mentions what it gives and what is in its body. -/
theorem mem_lexemes_function_iff
    {function : Function}
    (hName : isItemName function.name = false)
    (hBody : function.body.NamesNoItem)
    (item : Item) :
    .word item.name ∈ lexemes function.tokens ↔
      item ∈ function.items := by
  have hNotation :
      item.name ≠ "pub" ∧ item.name ≠ "fn" ∧
        item.name ≠ "Result" := by
    cases item <;> decide
  have hFunction := item.name_ne hName
  have hReturns :
      .word item.name ∈ lexemes function.returns.tokens ↔
        item ∈ function.returns.items := by
    cases function.returns <;>
      simp [Returns.tokens, Returns.items, hNotation,
        Item.name_injective.eq_iff]
  have hInside := hBody.mem_lexemes_iff item 1
  simp [Function.tokens, Function.items, hNotation, hFunction,
    hReturns, hInside]

/- A module mentions no item if its name is not that of one. -/
theorem not_mem_lexemes_submodule
    {name : String}
    (hName : isItemName name = false)
    (isPublic : Bool)
    (item : Item) :
    .word item.name ∉
      lexemes (Declaration.submodule name isPublic).tokens := by
  have hNotation :
      item.name ≠ "pub" ∧ item.name ≠ "mod" := by
    cases item <;> decide
  have hModule := item.name_ne hName
  cases isPublic <;>
    simp [Declaration.tokens, hNotation, hModule]

/-
  The file for a function imports just the items that are
  collected from the function.
-/
theorem importsJust_ofFunction
    {name : String}
    {returns : Returns}
    {body : Expr}
    {modules : List Declaration}
    (hModules :
      ∀ declaration ∈ modules, ∃ name isPublic,
        isNameWord name = true ∧ isItemName name = false ∧
          declaration = .submodule name isPublic)
    (hName : isNameWord name = true)
    (hOther : isItemName name = false)
    (hNamed : body.isNamed = true)
    (hBody : body.NamesNoItem) :
    ImportsJust (· ∈ returns.items ++ body.items)
      (File.ofFunction ⟨name, returns, body⟩ modules).text := by
  let function : Function := ⟨name, returns, body⟩
  let code := codeOf function modules
  have hFunction : (Declaration.function function).isNamed := by
    rw [Declaration.isNamed, hName, hNamed]
    rfl
  have hAll :
      ∀ declaration ∈ modules ++ [Declaration.function function],
        declaration.isNamed = true := by
    rw [List.forall_mem_append, List.forall_mem_singleton]
    refine ⟨?_, hFunction⟩
    intro declaration hModule
    rcases hModules declaration hModule with
      ⟨name, isPublic, hWord, -, rfl⟩
    exact hWord
  have hSpaced : areSpaced code.tokens = true := by
    apply areSpaced_file
    intro block hBlock declaration hMember
    apply hAll
    rw [← flatten_codeOf]
    exact List.mem_flatten.mpr ⟨block, hBlock, hMember⟩
  have hLex :
      lex (Token.textOf (.line 0 :: code.tokens)) =
        some (lexemes code.tokens) :=
    lex_textOf ((areSpaced_line 0).trans hSpaced)
  have hWords :
      ∀ item : Item,
        .word item.name ∈ lexemes code.tokens ↔
          item ∈ function.items := by
    intro item
    rw [lexemes_file, flatten_codeOf, List.flatMap_append,
      List.mem_append, List.flatMap_singleton, List.mem_flatMap]
    refine Iff.trans (or_iff_right ?_)
      (mem_lexemes_function_iff hOther hBody item)
    rintro ⟨declaration, hModule, hMention⟩
    rcases hModules declaration hModule with
      ⟨name, isPublic, -, hWord, rfl⟩
    exact not_mem_lexemes_submodule hWord isPublic item hMention
  refine
    ⟨Item.sorted function.items, _, _,
      text_ofFunction function modules, pairwise_sorted _, hLex,
      fun item => ?_⟩
  rw [mem_sorted_iff, hWords]
  exact ⟨Iff.rfl, Iff.rfl⟩

/- What is needed can be said in another way. -/
theorem ImportsJust.congr
    {text : String}
    {needed others : Item → Prop}
    (hImports : ImportsJust needed text)
    (hSame : ∀ item, needed item ↔ others item) :
    ImportsJust others text := by
  rcases hImports with
    ⟨items, code, words, hText, hOrder, hLex, hItems⟩
  refine
    ⟨items, code, words, hText, hOrder, hLex, fun item => ?_⟩
  rw [← hSame]
  exact hItems item

------------------------------------------------------------
-- Units and Grammars
------------------------------------------------------------

/- An identifier has no capital letter, as items have. -/
theorem isItemName_identifier
    (name : String) :
    isItemName (identifier name) = false := by
  have hCapital :
      ∀ item : Item,
        item.name.toList.head?.any isFormChar = false := by
    intro item
    cases item <;> decide
  rw [Bool.eq_false_iff]
  intro hName
  rcases List.mem_map.mp (List.contains_iff_mem.mp hName) with
    ⟨item, -, hItem⟩
  have hForm :
      (identifier name).toList.head?.any isFormChar = false := by
    rw [← hItem]
    exact hCapital item
  cases hChars : (identifier name).toList with
  | nil =>
      have hSome :
          ∀ item : Item, item.name.toList ≠ [] := by
        intro item
        cases item <;> decide
      exact hSome item (hItem ▸ hChars)
  | cons c rest =>
      have hMember : c ∈ (identifier name).toList := by
        rw [hChars]
        exact List.mem_cons_self
      have hFirst := isFormChar_of_mem_identifier hMember
      rw [hChars, List.head?_cons, Option.any_some, hFirst]
        at hForm
      cases hForm

/- The file of an entry imports just what its rule needs. -/
theorem importsJust_unitText
    (name : String)
    (rule : Rule) :
    ImportsJust (fun item => rule.Needs item)
      (unitText (identifier name) rule) := by
  have hFile :
      ImportsJust (· ∈ [Item.scope] ++ (ofRule rule).items)
        (unitFile (identifier name) rule).text :=
    importsJust_ofFunction nofun (isNameWord_identifier name)
      (isItemName_identifier name) (isNamed_ofRule rule)
      (namesNoItem_ofRule rule)
  rw [unitText_eq]
  refine hFile.congr fun item => ?_
  rw [List.mem_append, List.mem_singleton, mem_items_ofRule_iff]
  refine or_iff_right_of_imp ?_
  rintro rfl
  exact .scope

/-
  The file of a grammar imports just what the grammar needs if
  its entries are in files of their own.
-/
theorem importsJust_grammarText
    (grammar : Grammar)
    {links : Links}
    (hLinks :
      ∀ link ∈ links, ∃ name, link.2 = identifier name) :
    ImportsJust (GrammarNeeds grammar links)
      (grammarText grammar links) := by
  have hNamed :
      (ofGrammar grammar links).isNamed = true := by
    refine isNamed_ofGrammar grammar fun link hLink => ?_
    rcases hLinks link hLink with ⟨name, hName⟩
    rw [hName]
    exact isNameWord_identifier name
  have hNames : (ofGrammar grammar links).NamesNoItem := by
    refine namesNoItem_ofGrammar grammar fun link hLink => ?_
    rcases hLinks link hLink with ⟨name, hName⟩
    rw [hName]
    exact isItemName_identifier name
  have hModules :
      ∀ declaration ∈ grammarModules links, ∃ name isPublic,
        isNameWord name = true ∧ isItemName name = false ∧
          declaration = .submodule name isPublic := by
    intro declaration hMember
    unfold grammarModules at hMember
    split at hMember
    · cases hMember
    · exact
        ⟨"repository", true, by decide, by decide,
          List.mem_singleton.mp hMember⟩
  have hFile :
      ImportsJust
        (· ∈ [Item.grammar, .error] ++
          (ofGrammar grammar links).items)
        (grammarFile grammar links).text :=
    importsJust_ofFunction hModules (by decide) (by decide)
      hNamed hNames
  rw [grammarText_eq]
  exact hFile.congr fun item =>
    mem_items_ofGrammar_iff item grammar links

/-
  The use line of each file is exact: that of an entry has what
  its rule needs, and that of a grammar has what the grammar
  needs, for its links whatever rules they are to.
-/
theorem files_importJust
    (name : String)
    (rule : Rule)
    (grammar : Grammar)
    (links : Links)
    (hLinks :
      ∀ link ∈ links, ∃ name, link.2 = identifier name) :
    ImportsJust (fun item => rule.Needs item)
        (unitText (identifier name) rule) ∧
      ImportsJust (GrammarNeeds grammar links)
        (grammarText grammar links) :=
  ⟨importsJust_unitText name rule,
    importsJust_grammarText grammar hLinks⟩

/-
  A grammar with names of items in its texts.  It has a pattern
  in a capture, no extra field, and an entry without captures.
-/
def citingGrammar : Grammar :=
  { Grammar.empty with
    name := "ExtraValue"
    patterns :=
      [{ Rule.empty with
          captures :=
            some
              [(0, { Rule.empty with
                matchPattern := some (.verbatim "Pattern") })] }]
    repository :=
      ⟨[("Scope",
        { Rule.empty with
          matchPattern :=
            some (.compiled (.ofText "Captures")) })]⟩ }

/- Its file imports what is in use, and that of its entry too. -/
theorem files_importJust_citingGrammar :
    let links := [("Scope", identifier "Scope")]
    (∀ link ∈ links, ∃ name, link.2 = identifier name) ∧
      Item.all.filter (GrammarNeeds citingGrammar links ·) =
        [.captures, .error, .grammar, .patternValue, .repository,
          .scope] ∧
      ImportsJust (GrammarNeeds citingGrammar links)
        (grammarText citingGrammar links) ∧
      ∀ entry ∈ citingGrammar.repository.entries,
        Item.all.filter (entry.2.Needs ·) = [.pattern, .scope] ∧
          ImportsJust (fun item => entry.2.Needs item)
            (unitText (identifier entry.1) entry.2) := by
  intro links
  have hLinks :
      ∀ link ∈ links, ∃ name, link.2 = identifier name := by
    rw [List.forall_mem_singleton]
    exact ⟨"Scope", rfl⟩
  have hFiles := fun entry : String × Rule =>
    files_importJust entry.1 entry.2 citingGrammar links hLinks
  refine ⟨hLinks, by decide, (hFiles ("", Rule.empty)).2, ?_⟩
  intro entry hEntry
  refine ⟨?_, (hFiles entry).1⟩
  rw [List.mem_singleton.mp hEntry]
  decide

end Source

end TextMate
