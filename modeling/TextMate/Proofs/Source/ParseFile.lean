import TextMate.Source.File
import TextMate.Proofs.Source.ParseExpr

/-
  This file proves that the text of a file is read as the
  statements for its declarations, in order.

  Main declarations:
    * `Declaration.statement`
    * `Declaration.isNamed`
    * `areSpaced_declaration`
    * `readStatement_declaration`
    * `readSource_text`
-/

namespace TextMate

namespace Source

------------------------------------------------------------
-- Statements of Declarations
------------------------------------------------------------

/- The type that a function is read to give. -/
def Returns.returned : Returns → Returned
  | .plain item => .plain item.name
  | .result item => .result item.name "Error"

namespace Declaration

/- The statement that a declaration is read as. -/
def statement : Declaration → Statement
  | .imports items => .imports libraryName (items.map Item.name)
  | .submodule name _ => .submodule name
  | .reexport path name => .reexport path name
  | .function definition =>
      .function definition.name definition.returns.returned
        definition.body.term

/- All that a declaration names has a name. -/
def isNamed : Declaration → Bool
  | .imports _ => true
  | .submodule name _ => isNameWord name
  | .reexport path name => isNameWord path && isNameWord name
  | .function definition =>
      isNameWord definition.name && definition.body.isNamed

end Declaration

------------------------------------------------------------
-- Spacing
------------------------------------------------------------

section Spacing

variable {rest : List Token}

/- The names of items are spaced, up to a sign. -/
theorem areSpaced_names
    (items : List Item)
    (hLoose : startLoose rest = true)
    (hRest : areSpaced rest = true) :
    areSpaced
        (Declaration.nameTokens (items.map Item.name) ++ rest) =
      true := by
  induction items with
  | nil => exact hRest
  | cons item items ih =>
      have hItem := isSound_of_isNameWord (isNameWord_item item)
      cases items with
      | nil =>
          simp [Declaration.nameTokens, hItem, hLoose, hRest]
      | cons other items =>
          simpa [Declaration.nameTokens, hItem, isSign_written]
            using ih

/- What a function gives is spaced, up to a blank. -/
theorem areSpaced_returns
    (returns : Returns)
    (hLoose : startLoose rest = true)
    (hRest : areSpaced rest = true) :
    areSpaced (returns.tokens ++ rest) = true := by
  have hItem :
      ∀ item : Item, (Token.word item.name).isSound = true :=
    fun item => isSound_of_isNameWord (isNameWord_item item)
  have hResult : (Token.word "Result").isSound = true := by
    decide
  cases returns <;>
    simp [Returns.tokens, hItem, hResult, isSign_written,
      hLoose, hRest]

/- A declaration is spaced, and ends with its line. -/
theorem areSpaced_declaration
    {declaration : Declaration}
    (hNamed : declaration.isNamed = true)
    (hRest : areSpaced rest = true) :
    areSpaced (declaration.tokens ++ rest) = true := by
  have hWords :
      ∀ word ∈ ["use", "tmgrammar", "pub", "mod", "fn"],
        (Token.word word).isSound = true := by
    decide
  simp only [List.forall_mem_cons] at hWords
  cases declaration with
  | imports items =>
      have hNames :=
        @areSpaced_names
          (.sign '\x7d' :: .sign ';' :: .line 0 :: rest) items rfl
          (by simp [isSign_written, hRest])
      simpa [Declaration.tokens, libraryName, pathSign, signs,
        isSign_written, hWords] using hNames
  | submodule name isPublic =>
      have hName := isSound_of_isNameWord hNamed
      cases isPublic <;>
        simp [Declaration.tokens, isSign_written, hWords,
          hName, hRest]
  | reexport path name =>
      rw [Declaration.isNamed, Bool.and_eq_true] at hNamed
      have hPath := isSound_of_isNameWord hNamed.1
      have hName := isSound_of_isNameWord hNamed.2
      simp [Declaration.tokens, pathSign, signs,
        isSign_written, hWords, hPath, hName, hRest]
  | function definition =>
      rw [Declaration.isNamed, Bool.and_eq_true] at hNamed
      have hName := isSound_of_isNameWord hNamed.1
      have hEnd :
          areSpaced
              (.line 0 :: .sign '\x7d' :: .line 0 :: rest) =
            true := by
        simp [isSign_written, hRest]
      have hBody := areSpaced_expr hNamed.2 1 _ rfl hEnd
      have hReturns :=
        @areSpaced_returns
          (.blank :: .sign '\x7b' :: .line 1 ::
            (definition.body.tokens 1 ++
              .line 0 :: .sign '\x7d' :: .line 0 :: rest))
          definition.returns rfl (by simp [isSign_written, hBody])
      simpa [Declaration.tokens, Function.tokens,
        isSign_written, hWords, hName] using hReturns

end Spacing

------------------------------------------------------------
-- Reading
------------------------------------------------------------

section Reading

variable (rest : List Lexeme)

/- The names of items are read. -/
theorem readNames_items
    (items : List Item) :
    readNames
        (lexemes (Declaration.nameTokens (items.map Item.name)) ++
          .sign '\x7d' :: rest) =
      some (items.map Item.name, rest) := by
  induction items with
  | nil => rfl
  | cons item items ih =>
      cases items with
      | nil => rfl
      | cons other items =>
          have hComma : ',' ≠ '\x7d' := by decide
          simp only [List.map_cons, Declaration.nameTokens,
            lexemes_word, lexemes_sign, lexemes_blank,
            List.cons_append] at ih ⊢
          rw [readNames, if_neg hComma, if_pos rfl, ih]
          rfl

/- The type of what a function gives is read. -/
theorem readReturned_tokens
    (returns : Returns) :
    readReturned
        (lexemes returns.tokens ++ .sign '\x7b' :: rest) =
      some (returns.returned, .sign '\x7b' :: rest) := by
  cases returns with
  | plain item => cases item <;> rfl
  | result item => rfl

/- The body of a function is read. -/
theorem readBody_tokens
    {body : Expr}
    (hNamed : body.isNamed = true)
    (depth : Nat) :
    readBody
        (.sign '\x7b' ::
          (lexemes (body.tokens depth) ++
            .sign '\x7d' :: rest)) =
      some (body.term, rest) := by
  have hTerm :
      readTerm
          (lexemes (body.tokens depth) ++
            .sign '\x7d' :: rest) =
        some (body.term, .sign '\x7d' :: rest) :=
    (run_expr hNamed depth [] _).trans rfl
  rw [readBody, hTerm]
  rfl

/- A declaration is read as its statement. -/
theorem readStatement_declaration
    {declaration : Declaration}
    (hNamed : declaration.isNamed = true) :
    readStatement (lexemes declaration.tokens ++ rest) =
      some (declaration.statement, rest) := by
  cases declaration with
  | imports items =>
      have hNames := readNames_items (.sign ';' :: rest) items
      simp only [Declaration.tokens, libraryName, pathSign,
        signs, List.map_cons, List.map_nil, lexemes_append,
        lexemes_word, lexemes_sign, lexemes_blank, lexemes_line,
        lexemes_nil, List.cons_append, List.nil_append,
        List.append_assoc]
      rw [readStatement, hNames]
      rfl
  | submodule name isPublic =>
      have hName := isName_of_isNameWord hNamed
      cases isPublic with
      | true => exact if_pos hName
      | false => exact if_pos hName
  | reexport path name =>
      rw [Declaration.isNamed, Bool.and_eq_true] at hNamed
      have hPath := isName_of_isNameWord hNamed.1
      have hName := isName_of_isNameWord hNamed.2
      have hBoth : (isName path && isName name) = true := by
        rw [hPath, hName]
        rfl
      exact if_pos hBoth
  | function definition =>
      rw [Declaration.isNamed, Bool.and_eq_true] at hNamed
      have hName := isName_of_isNameWord hNamed.1
      have hReturns :=
        readReturned_tokens
          (lexemes (definition.body.tokens 1) ++
            .sign '\x7d' :: rest)
          definition.returns
      have hBody := readBody_tokens rest hNamed.2 1
      simp only [Declaration.tokens, Function.tokens,
        lexemes_append, lexemes_word, lexemes_sign,
        lexemes_blank, lexemes_line, lexemes_nil,
        List.cons_append, List.nil_append, List.append_assoc]
      rw [readStatement, if_pos hName, readFunction, hReturns]
      simp only [Option.bind_eq_bind, Option.bind_some, hBody]
      rfl

/- A statement is read, and then those behind it. -/
theorem readStatements_of_readStatement
    {lexemes : List Lexeme}
    {statement : Statement}
    (hRead : readStatement lexemes = some (statement, rest)) :
    readStatements lexemes =
      (readStatements rest).map fun statements =>
        statement :: statements := by
  cases lexemes with
  | nil => cases hRead
  | cons lexeme others =>
      rw [readStatements]
      split
      · next hNone =>
          rw [hRead] at hNone
          cases hNone
      · next other after hSome =>
          rw [hRead] at hSome
          cases hSome
          rfl

end Reading

------------------------------------------------------------
-- Files
------------------------------------------------------------

/- The tokens of a file are spaced if its declarations are. -/
theorem areSpaced_file
    {file : File}
    (hNamed :
      ∀ block ∈ file, ∀ declaration ∈ block,
        declaration.isNamed = true) :
    areSpaced file.tokens = true := by
  have hBlock :
      ∀ (block : List Declaration) (rest : List Token),
        (∀ declaration ∈ block, declaration.isNamed = true) →
          areSpaced rest = true →
            areSpaced
                (block.flatMap Declaration.tokens ++ rest) =
              true := by
    intro block
    induction block with
    | nil => exact fun _ _ hRest => hRest
    | cons declaration block ih =>
        intro rest hBlock hRest
        rw [List.flatMap_cons, List.append_assoc]
        exact
          areSpaced_declaration
            (hBlock declaration List.mem_cons_self)
            (ih rest
              (fun other hOther =>
                hBlock other (List.mem_cons_of_mem _ hOther))
              hRest)
  induction file with
  | nil => rfl
  | cons block file ih =>
      have hFirst := hBlock block
      cases file with
      | nil =>
          have hWhole :=
            hFirst [] (hNamed block List.mem_cons_self) rfl
          rwa [List.append_nil] at hWhole
      | cons other file =>
          have hRest :=
            ih fun block hMember =>
              hNamed block (List.mem_cons_of_mem _ hMember)
          rw [File.tokens]
          · exact
              hFirst (.line 0 :: File.tokens (other :: file))
                (hNamed block List.mem_cons_self)
                (by rw [areSpaced_line]; exact hRest)
          · exact List.cons_ne_nil _ _

/- The lexemes of a file are those of its declarations. -/
theorem lexemes_file
    (file : File) :
    lexemes file.tokens =
      file.flatten.flatMap fun declaration =>
        lexemes declaration.tokens := by
  have hBlock :
      ∀ block : List Declaration,
        lexemes (block.flatMap Declaration.tokens) =
          block.flatMap fun declaration =>
            lexemes declaration.tokens := by
    intro block
    induction block with
    | nil => rfl
    | cons declaration block ih =>
        rw [List.flatMap_cons, List.flatMap_cons, ← ih,
          lexemes_append]
  induction file with
  | nil => rfl
  | cons block file ih =>
      rw [List.flatten_cons, List.flatMap_append, ← ih, ← hBlock]
      cases file with
      | nil =>
          rw [File.tokens, File.tokens, lexemes_nil,
            List.append_nil]
      | cons other file =>
          rw [File.tokens]
          · rw [lexemes_append, lexemes_line]
          · exact List.cons_ne_nil _ _

/- Declarations are read as their statements, in order. -/
theorem readStatements_flatMap
    {declarations : List Declaration}
    (hNamed :
      ∀ declaration ∈ declarations,
        declaration.isNamed = true) :
    readStatements
        (declarations.flatMap fun declaration =>
          lexemes declaration.tokens) =
      some (declarations.map Declaration.statement) := by
  induction declarations with
  | nil =>
      rw [List.flatMap_nil, readStatements]
      rfl
  | cons declaration declarations ih =>
      have hRest :=
        ih fun other hOther =>
          hNamed other (List.mem_cons_of_mem _ hOther)
      have hFirst :=
        readStatement_declaration
          (declarations.flatMap fun declaration =>
            lexemes declaration.tokens)
          (hNamed declaration List.mem_cons_self)
      rw [List.flatMap_cons,
        readStatements_of_readStatement _ hFirst, hRest]
      rfl

/- The text of a file is read as its statements. -/
theorem readSource_text
    {file : File}
    (hNamed :
      ∀ block ∈ file, ∀ declaration ∈ block,
        declaration.isNamed = true) :
    readSource file.text =
      some (file.flatten.map Declaration.statement) := by
  have hAll :
      ∀ declaration ∈ file.flatten,
        declaration.isNamed = true := by
    intro declaration hMember
    rcases List.mem_flatten.mp hMember with
      ⟨block, hBlock, hMember⟩
    exact hNamed block hBlock declaration hMember
  have hLex :
      lex file.text = some (lexemes file.tokens) :=
    lex_textOf (areSpaced_file hNamed)
  rw [readSource, hLex, lexemes_file]
  exact readStatements_flatMap hAll

end Source

end TextMate
