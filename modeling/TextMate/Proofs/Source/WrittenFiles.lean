import Mathlib.Data.List.Basic
import TextMate.Proofs.Source.Needs
import TextMate.Proofs.Source.Writing

/-
  This file proves that the writer of a grammar appends the text
  of its function, and registers just the items that this names.
  So the files that are written are those whose imports are
  collected from their functions.

  Main declarations:
    * `writes_writeGrammar`
    * `text_ofFunction`
    * `unitText_eq`
    * `indexText_eq`
    * `grammarText_eq`
-/

namespace TextMate

namespace Source

------------------------------------------------------------
-- Root Fields
------------------------------------------------------------

/- The tokens of parts that have a line each are appended. -/
theorem partTokens_eq_flatMap
    (depth : Nat)
    (parts : List Expr) :
    Expr.partTokens depth parts =
      parts.flatMap fun part => Expr.partTokens depth [part] := by
  induction parts with
  | nil => rfl
  | cons part parts ih =>
      rw [Expr.partTokens, ih, List.flatMap_cons]
      simp [Expr.partTokens]

/- So are those of the fields of a record. -/
theorem fieldTokens_append
    (depth : Nat)
    (first second : List (String × Expr)) :
    Expr.fieldTokens depth (first ++ second) =
      Expr.fieldTokens depth first ++
        Expr.fieldTokens depth second := by
  induction first with
  | nil => rfl
  | cons field first ih =>
      rcases field with ⟨name, value⟩
      rw [List.cons_append, Expr.fieldTokens, ih,
        Expr.fieldTokens]
      simp

/- The items of the fields are. -/
theorem fieldItems_append
    (first second : List (String × Expr)) :
    Expr.fieldItems (first ++ second) =
      Expr.fieldItems first ++ Expr.fieldItems second := by
  simp only [Expr.fieldItems_eq_flatMap, List.flatMap_append]

/- A part is written on a line of its own. -/
theorem Writes.part
    {part : Expr}
    {text : String}
    {depth : Nat}
    (hText :
      Token.textOf (part.tokens depth ++ [Token.sign ',']) =
        text) :
    Writes (do Source.newline depth; Source.push text)
      (Expr.partTokens depth [part]) [] := by
  have hLine := (Writes.newline depth).seq (Writes.push hText)
  simpa [Expr.partTokens] using hLine

/- So is a field, behind its name. -/
theorem Writes.field
    {name text : String}
    {value : Expr}
    {depth : Nat}
    (hText :
      Token.textOf
          (.word name :: .sign ':' :: .blank ::
            (value.tokens depth ++ [Token.sign ','])) =
        text) :
    Writes (do Source.newline depth; Source.push text)
      (Expr.fieldTokens depth [(name, value)]) [] := by
  have hLine := (Writes.newline depth).seq (Writes.push hText)
  simpa [Expr.fieldTokens] using hLine

/- A text field of a grammar has a line. -/
theorem writes_writeText
    (name text : String) :
    Writes (writeText name text)
      (Expr.fieldTokens 2 [(name, .owned text)]) [] := by
  have hText :
      Token.textOf
          (.word name :: .sign ':' :: .blank ::
            ((Expr.owned text).tokens 2 ++
              [Token.sign ','])) =
        name ++ ": " ++ quoted text ++ ".into()," := by
    apply String.toList_injective
    simp [Expr.owned, Expr.tokens, Token.textOf, Token.chars,
      quoted]
  exact Writes.field hText

/- The selector of a grammar has a line, if it is there. -/
theorem writes_writeSelector
    (selector : Option String) :
    Writes (writeSelector selector)
      (Expr.fieldTokens 2
        (match selector with
          | some selector =>
              [("injection_selector",
                .present (.owned selector))]
          | none => []))
      [] := by
  cases selector with
  | none => exact .pure
  | some selector =>
      have hText :
          Token.textOf
              (.word "injection_selector" :: .sign ':' ::
                .blank ::
                ((Expr.present (.owned selector)).tokens 2 ++
                  [Token.sign ','])) =
            "injection_selector: Some(" ++ quoted selector ++
              ".into())," := by
        apply String.toList_injective
        simp [Expr.present, Expr.owned, Expr.tokens,
          Expr.rowTokens, Callee.tokens, Token.textOf,
          Token.chars, quoted]
      exact Writes.field hText

/- The root rules have a line each. -/
theorem writes_writePatterns
    (rules : List Rule) :
    let vector : Expr := .vector (ofRules rules)
    Writes (writePatterns rules)
      (Expr.fieldTokens 2 [("patterns", vector)])
      vector.items := by
  have hOpen :
      Token.textOf [.word "patterns", .sign ':', .blank] =
        "patterns: " := by
    decide
  have hRules :=
    writes_writeChildren rules
      (writes_writeRules (fun rule _ => writes_writeRule rule) 3)
  rw [ofRules_eq_map]
  refine
    ((Writes.newline 2).seq ((Writes.push hOpen).seq
      (hRules.seq (.push textOf_comma)))).congr ?_ ?_
  · simp [Expr.fieldTokens]
  · simp

/- Parts are written in order if each of them is. -/
theorem writes_forM
    {α : Type}
    {write : α → Writing}
    {exprOf : α → Expr}
    {depth : Nat}
    (hWrite :
      ∀ part,
        Writes (write part) (Expr.partTokens depth [exprOf part])
          [])
    (parts : List α) :
    Writes (parts.forM write)
      (Expr.partTokens depth (parts.map exprOf)) [] := by
  refine
    (Writes.forM fun part (_ : part ∈ parts) =>
      hWrite part).congr ?_ ?_
  · rw [partTokens_eq_flatMap, List.flatMap_map]
  · simp

/- A linked entry is a call of its function. -/
theorem writes_writeLink
    (link : String × String) :
    Writes (writeLink link) (Expr.partTokens 3 [ofLink link])
      [] := by
  have hText :
      Token.textOf
          ((ofLink link).tokens 3 ++ [Token.sign ',']) =
        "(" ++ quoted link.1 ++ ", repository::" ++ link.2 ++
          "())," := by
    apply String.toList_injective
    simp [ofLink, Expr.tokens, Expr.rowTokens, Callee.tokens,
      pathSign, signs, Token.textOf, Token.chars, quoted]
  exact Writes.part hText

/- The entries that are linked have a line each, if any. -/
theorem writes_writeLinks
    (links : Links) :
    let fields : List (String × Expr) :=
      if links.isEmpty then []
      else
        [("repository",
          .checked (.apply .repository "merge"
            (.array (links.map ofLink))))]
    Writes (writeLinks links) (Expr.fieldTokens 2 fields)
      (Expr.fieldItems fields) := by
  intro fields
  cases links with
  | nil => exact .pure
  | cons link links =>
      have hOpen :
          Token.textOf
              ([Token.word "repository", .sign ':', .blank] ++
                (Callee.member .repository "merge").tokens ++
                [Token.sign '(', .sign '[']) =
            "repository: Repository::merge([" := by
        decide
      have hClose :
          Token.textOf
              [.sign ']', .sign ')', .sign '?', .sign ','] =
            "])?," := by
        decide
      have hLinks := writes_forM writes_writeLink (link :: links)
      refine
        ((Writes.uses .repository).seq
          ((Writes.newline 2).seq
            ((Writes.push hOpen).seq
              (hLinks.seq
                ((Writes.newline 2).seq
                  (.push hClose)))))).congr ?_ ?_
      · simp [fields, Expr.fieldTokens, Expr.apply, Expr.tokens,
          Expr.rowTokens, closingLine]
      · intro item
        have hItems := mem_items_links_iff item (link :: links)
        simpa [fields, Expr.fieldItems] using hItems.symm

/- The texts of a list stand on one line. -/
theorem textOf_rowTokens
    (depth : Nat)
    (values : List String) :
    Token.textOf
        (Expr.rowTokens depth true (values.map .owned)) =
      String.intercalate ", "
        (values.map fun value => quoted value ++ ".into()") := by
  have hOwned :
      ∀ value,
        Token.textOf ((Expr.owned value).tokens depth) =
          quoted value ++ ".into()" := by
    intro value
    apply String.toList_injective
    simp [Expr.owned, Expr.tokens, Token.textOf, Token.chars,
      quoted]
  induction values with
  | nil => rfl
  | cons value values ih =>
      cases values with
      | nil =>
          simp [Expr.rowTokens, hOwned]
      | cons other values =>
          have hRow :
              Expr.rowTokens depth true
                  ((value :: other :: values).map .owned) =
                (Expr.owned value).tokens depth ++
                  ([Token.sign ',', .blank] ++
                    Expr.rowTokens depth true
                      ((other :: values).map .owned)) := by
            rfl
          have hComma :
              Token.textOf [.sign ',', .blank] = ", " := by
            decide
          rw [hRow, textOf_append, textOf_append, hOwned, hComma,
            ih, ← String.append_assoc]
          exact (String.intercalate_cons_cons ..).symm

/- The value of a root field is written on one line. -/
theorem textOf_ofExtraValue
    (depth : Nat)
    (value : ExtraValue) :
    Token.textOf ((ofExtraValue value).tokens depth) =
      extraText value := by
  cases value with
  | text value =>
      show _ = "ExtraValue::Text(" ++ quoted value ++ ".into())"
      apply String.toList_injective
      simp [ofExtraValue, Expr.apply, Expr.owned,
        Expr.tokens, Expr.rowTokens, Callee.tokens, pathSign,
        signs, Token.textOf, Token.chars, quoted, Item.name]
  | list values =>
      have hTokens :
          (ofExtraValue (.list values)).tokens depth =
            [Token.word "ExtraValue", .sign ':', .sign ':',
              .word "List", .sign '(', .word "vec", .sign '!',
              .sign '['] ++
              (Expr.rowTokens depth true (values.map .owned) ++
                [Token.sign ']', .sign ')']) := by
        simp [ofExtraValue, Expr.apply, Expr.tokens,
          Expr.rowTokens, Callee.tokens, pathSign, signs,
          Item.name]
      have hOpen :
          Token.textOf
              [.word "ExtraValue", .sign ':', .sign ':',
                .word "List", .sign '(', .word "vec", .sign '!',
                .sign '['] =
            "ExtraValue::List(vec![" := by
        decide
      rw [hTokens, textOf_append, textOf_append, hOpen,
        textOf_arrayEnd, textOf_rowTokens]
      exact (String.append_assoc ..).symm

/- A root field is a pair of its key and its value. -/
theorem writes_writeExtraField
    (extra : String × ExtraValue) :
    Writes (writeExtraField extra)
      (Expr.partTokens 3 [ofExtra extra]) [] := by
  have hTokens :
      (ofExtra extra).tokens 3 ++ [Token.sign ','] =
        [Token.sign '(', .quoted extra.1, .sign '.',
          .word "into", .sign '(', .sign ')', .sign ',',
          .blank] ++
          ((ofExtraValue extra.2).tokens 3 ++
            [Token.sign ')', .sign ',']) := by
    simp [ofExtra, Expr.owned, Expr.tokens]
  have hOpen :
      Token.textOf
          [.sign '(', .quoted extra.1, .sign '.', .word "into",
            .sign '(', .sign ')', .sign ',', .blank] =
        "(" ++ quoted extra.1 ++ ".into(), " := by
    apply String.toList_injective
    simp [Token.textOf, Token.chars, quoted]
  have hText :
      Token.textOf
          ((ofExtra extra).tokens 3 ++ [Token.sign ',']) =
        "(" ++ quoted extra.1 ++ ".into(), " ++
          extraText extra.2 ++ ")," := by
    rw [hTokens, textOf_append, textOf_append, hOpen,
      textOf_itemEnd, textOf_ofExtraValue, ← String.append_assoc]
  exact Writes.part hText

/- The root fields that are kept have a line each, if any. -/
theorem writes_writeExtra
    (extra : List (String × ExtraValue)) :
    let fields : List (String × Expr) :=
      if extra.isEmpty then []
      else [("extra", .vector (extra.map ofExtra))]
    Writes (writeExtra extra) (Expr.fieldTokens 2 fields)
      (Expr.fieldItems fields) := by
  intro fields
  cases extra with
  | nil => exact .pure
  | cons first extra =>
      have hName :
          Token.textOf [.word "extra", .sign ':', .blank] =
            "extra: " := by
        decide
      have hClose :
          Token.textOf [.sign ']', .sign ','] = "]," := by
        decide
      have hExtra :=
        writes_forM writes_writeExtraField (first :: extra)
      refine
        ((Writes.newline 2).seq
          ((Writes.push hName).seq
            ((Writes.uses .extraValue).seq
              ((Writes.push textOf_vectorStart).seq
                (hExtra.seq
                  ((Writes.newline 2).seq
                    (.push hClose))))))).congr ?_ ?_
      · simp [fields, Expr.fieldTokens, Expr.tokens, closingLine]
      · intro item
        have hItems := mem_items_extras_iff item (first :: extra)
        simpa [fields, Expr.fieldItems] using hItems.symm

/- The fields of a grammar have a line each. -/
theorem writes_writeGrammarFields
    (grammar : Grammar)
    (links : Links) :
    Writes (writeGrammarFields grammar links)
      (Expr.fieldTokens 2 (grammarFields grammar links))
      (Expr.fieldItems (grammarFields grammar links)) := by
  have hName := writes_writeText "name" grammar.name
  have hScope := writes_writeText "scope_name" grammar.scopeName
  have hSelector :=
    writes_writeSelector grammar.injectionSelector
  have hPatterns := writes_writePatterns grammar.patterns
  have hLinks := writes_writeLinks links
  have hExtra := writes_writeExtra grammar.extra
  have hAll :=
    hName.seq <| hScope.seq <| hSelector.seq <|
      hPatterns.seq <| hLinks.seq hExtra
  refine hAll.congr ?tokens ?items
  case tokens =>
    simp only [← fieldTokens_append, grammarFields,
      List.append_assoc]
    rfl
  case items =>
    intro item
    simp only [grammarFields, fieldItems_append]
    cases grammar.injectionSelector <;>
      simp [Expr.fieldItems, Expr.present, Expr.owned,
        Expr.items, Expr.partItems, Callee.items]

------------------------------------------------------------
-- Functions
------------------------------------------------------------

/- The function of a repository entry is written. -/
theorem writes_writeUnit
    (identifier : String)
    (rule : Rule) :
    let function : Function :=
      ⟨identifier, .plain .scope, ofRule rule⟩
    Writes (writeUnit identifier rule) function.tokens
      function.items := by
  intro function
  have hOpen :
      Token.textOf
          ([.word "pub", .blank, .word "fn", .blank,
            .word identifier, .sign '(', .sign ')', .blank,
            .sign '-', .sign '>', .blank, .word "Scope",
            .blank, .sign '\x7b']) =
        "pub fn " ++ identifier ++ "() -> Scope \x7b" := by
    apply String.toList_injective
    simp [Token.textOf, Token.chars]
  have hRule := writes_writeRule rule 1
  refine
    ((Writes.push hOpen).seq ((Writes.newline 1).seq
      (hRule.seq ((Writes.newline 0).seq
        (.push textOf_functionEnd))))).congr ?_ ?_
  · simp [function, Function.tokens, Returns.tokens, Item.name]
  · intro item
    have hScope : Item.scope ∈ (ofRule rule).items :=
      (mem_items_ofRule_iff _ _).mpr .scope
    simp only [function, Function.items, Returns.items,
      List.nil_append, List.append_nil, List.mem_append,
      List.mem_singleton]
    exact (or_iff_right_of_imp fun hItem => hItem ▸ hScope).symm

/- The function of a grammar is written. -/
theorem writes_writeGrammar
    (grammar : Grammar)
    (links : Links) :
    let function : Function :=
      ⟨"grammar", .result .grammar, ofGrammar grammar links⟩
    Writes (writeGrammar grammar links) function.tokens
      function.items := by
  intro function
  have hOpen :
      Token.textOf
          [.word "pub", .blank, .word "fn", .blank,
            .word "grammar", .sign '(', .sign ')', .blank,
            .sign '-', .sign '>', .blank, .word "Result",
            .sign '<', .word "Grammar", .sign ',', .blank,
            .word "Error", .sign '>', .blank, .sign '\x7b'] =
        "pub fn grammar() -> Result<Grammar, Error> \x7b" := by
    decide
  have hRecord :
      Token.textOf
          [.word "Ok", .sign '(', .word "Grammar", .blank,
            .sign '\x7b'] =
        "Ok(Grammar \x7b" := by
    decide
  have hEnd :
      Token.textOf [.sign '\x7d', .sign ')'] = "\x7d)" := by
    decide
  have hFields := writes_writeGrammarFields grammar links
  have hRest :=
    writes_writeRest .grammar 2 !(isWhole grammar links)
  have hAll :=
    (Writes.uses .error).seq <| (Writes.uses .grammar).seq <|
      (Writes.push hOpen).seq <| (Writes.newline 1).seq <|
      (Writes.push hRecord).seq <| hFields.seq <| hRest.seq <|
      (Writes.newline 1).seq <| (Writes.push hEnd).seq <|
      (Writes.newline 0).seq <| Writes.push textOf_functionEnd
  refine hAll.congr ?tokens ?items
  case tokens =>
    simp only [function, Function.tokens, Returns.tokens,
      ofGrammar, Expr.tokens, Expr.rowTokens, Callee.tokens]
    cases isWhole grammar links <;> simp [Item.name]
  case items =>
    intro item
    -- The function names the item of the grammar twice.
    suffices hTwice :
        item = .grammar →
          item = .error ∨ item = .grammar ∨
            item ∈ Expr.fieldItems (grammarFields grammar links) by
      simpa [function, Function.items, Returns.items, ofGrammar,
        Expr.items, Expr.partItems, Callee.items] using hTwice
    exact fun hGrammar => Or.inr (Or.inl hGrammar)

------------------------------------------------------------
-- Use Lines
------------------------------------------------------------

/- Names are written with commas between them. -/
theorem textOf_nameTokens
    (names : List String) :
    Token.textOf (Declaration.nameTokens names) =
      String.intercalate ", " names := by
  induction names with
  | nil => rfl
  | cons name names ih =>
      cases names with
      | nil =>
          rw [String.intercalate_singleton]
          simp [Declaration.nameTokens, Token.textOf,
            Token.chars]
      | cons other names =>
          have hName :
              Token.textOf [.word name, .sign ',', .blank] =
                name ++ ", " := by
            simp [Token.textOf, Token.chars]
          rw [String.intercalate_cons_cons, ← ih, ← hName,
            ← textOf_append]
          rfl

/- The imports of a file are its use line. -/
theorem textOf_imports
    (items : List Item) :
    Token.textOf (Declaration.imports items).tokens =
      useLine items := by
  have hStart :
      Token.textOf
          [.word "use", .blank, .word libraryName, .sign ':',
            .sign ':', .sign '\x7b'] =
        "use tmgrammar::\x7b" := by
    decide
  have hClose :
      Token.textOf [.sign '\x7d', .sign ';', .line 0] =
        "\x7d;\n" := by
    decide
  have hTokens :
      (Declaration.imports items).tokens =
        [Token.word "use", .blank, .word libraryName,
          .sign ':', .sign ':', .sign '\x7b'] ++
          Declaration.nameTokens (items.map Item.name) ++
            [Token.sign '\x7d', .sign ';', .line 0] := by
    simp [Declaration.tokens, pathSign, signs]
  rw [hTokens, textOf_append, textOf_append, hStart, hClose,
    textOf_nameTokens]
  rfl

/- Lists with the same items are sorted in the same way. -/
theorem sorted_congr
    {first second : List Item}
    (hItems : ∀ item, item ∈ first ↔ item ∈ second) :
    Item.sorted first = Item.sorted second := by
  unfold Item.sorted
  refine List.filter_congr fun item _ => ?_
  rw [Bool.eq_iff_iff, List.contains_iff_mem,
    List.contains_iff_mem, hItems]

/- All that is written, and a line for what is registered. -/
theorem Writes.written
    {writing : Writing}
    {tokens : List Token}
    {items : List Item}
    (hWrites : Writes writing tokens items) :
    (written writing).text = Token.textOf tokens ∧
      (Source.written writing).useLine =
        useLine (Item.sorted items) := by
  rcases hWrites ⟨"", []⟩ with ⟨hText, hItems⟩
  have hSorted :=
    sorted_congr fun item =>
      (hItems item).trans (or_iff_right List.not_mem_nil)
  exact
    ⟨hText.trans String.empty_append, congrArg useLine hSorted⟩

------------------------------------------------------------
-- Files
------------------------------------------------------------

/- The sections of a file behind its imports. -/
def codeOf
    (function : Function)
    (modules : List Declaration) : File :=
  (if modules.isEmpty then [] else [modules]) ++
    [[Declaration.function function]]

/- They hold the modules and the function. -/
theorem flatten_codeOf
    (function : Function)
    (modules : List Declaration) :
    (codeOf function modules).flatten =
      modules ++ [Declaration.function function] := by
  cases modules <;> rfl

/- An empty line stands behind the imports. -/
theorem text_ofFunction
    (function : Function)
    (modules : List Declaration) :
    (File.ofFunction function modules).text =
      useLine (Item.sorted function.items) ++
        Token.textOf
          (.line 0 :: (codeOf function modules).tokens) := by
  have hSome : codeOf function modules ≠ [] := by
    simp [codeOf]
  rw [← textOf_imports, ← textOf_append]
  show
    Token.textOf (File.tokens (_ :: codeOf function modules)) = _
  rw [File.tokens]
  · rw [List.flatMap_singleton]
  · exact hSome

/- The file of an entry is what is written for it. -/
theorem unitText_eq
    (identifier : String)
    (rule : Rule) :
    unitText identifier rule =
      (unitFile identifier rule).text := by
  rcases (writes_writeUnit identifier rule).written with
    ⟨hText, hUses⟩
  rw [unitText, hText, hUses, unitFile, text_ofFunction,
    ← textOf_emptyLine, String.append_assoc, ← textOf_append]
  simp [codeOf, File.tokens, Declaration.tokens]

/- The file of a grammar is what is written for it. -/
theorem grammarText_eq
    (grammar : Grammar)
    (links : Links) :
    grammarText grammar links =
      (grammarFile grammar links).text := by
  rcases (writes_writeGrammar grammar links).written with
    ⟨hText, hUses⟩
  have hModule :
      Token.textOf
          (.line 0 :: (Declaration.submodule "repository"
            true).tokens) =
        "\npub mod repository;\n" := by
    decide
  rw [grammarText, hText, hUses, grammarFile, text_ofFunction,
    ← textOf_emptyLine]
  cases links with
  | nil =>
      rw [List.isEmpty_nil, if_pos rfl, if_pos rfl,
        String.append_empty, String.append_assoc,
        ← textOf_append]
      simp [codeOf, File.tokens, Declaration.tokens]
  | cons link links =>
      simp only [List.isEmpty_cons, Bool.false_eq_true,
        if_false]
      rw [← hModule, String.append_assoc, String.append_assoc,
        ← textOf_append, ← textOf_append]
      simp [codeOf, File.tokens, Declaration.tokens]

/-
  The index declares the modules, and exports a function of the
  same name from each behind an empty line.
-/
theorem indexText_eq
    (identifiers : List String) :
    indexText identifiers = (indexFile identifiers).text := by
  have hModules :
      (identifiers.flatMap fun name =>
          (Declaration.submodule name false).tokens.flatMap
            Token.chars) =
        identifiers.flatMap fun name =>
          (moduleLine name).toList := by
    refine List.flatMap_congr fun name _ => ?_
    show _ = ("mod " ++ name ++ ";\n").toList
    simp [Declaration.tokens, Token.chars, Token.indentation]
  have hExports :
      (identifiers.flatMap fun name =>
          (Declaration.reexport name name).tokens.flatMap
            Token.chars) =
        identifiers.flatMap fun name =>
          (exportLine name).toList := by
    refine List.flatMap_congr fun name _ => ?_
    show
      _ = ("pub use " ++ name ++ "::" ++ name ++ ";\n").toList
    simp [Declaration.tokens, pathSign, signs, Token.chars,
      Token.indentation]
  rw [← String.toList_inj, indexText, String.toList_join,
    File.text, Token.textOf, String.toList_ofList, indexFile]
  simp only [File.tokens, List.flatMap_append,
    List.flatMap_cons, List.flatMap_map, List.flatMap_assoc,
    hModules, hExports]
  rfl

end Source

end TextMate
