import TextMate.Source.Expr

/-
  This file defines files of generated source: sections of
  declarations with an empty line between them.

  Key definitions include:
    * `Declaration`
    * `Declaration.text`
    * `File`
    * `File.text`
    * `File.ofFunction`
-/

namespace TextMate

namespace Source

------------------------------------------------------------
-- Declarations
------------------------------------------------------------

/- What a function gives: an item, or a result with one. -/
inductive Returns where
  | plain (item : Item)
  | result (item : Item)
deriving DecidableEq

namespace Returns

/- The tokens of what a function gives. -/
def tokens : Returns → List Token
  | .plain item => [.word item.name]
  | .result item =>
      [.word "Result", .sign '<', .word item.name, .sign ',',
        .blank, .word Item.error.name, .sign '>']

/- The items that are named in what a function gives. -/
def items : Returns → List Item
  | .plain item => [item]
  | .result item => [item, .error]

end Returns

/- A function without parameters. -/
structure Function where
  name : String
  returns : Returns
  body : Expr

inductive Declaration where
  | imports (items : List Item)
  | submodule (name : String) (isPublic : Bool)
  | reexport (path : String) (name : String)
  | function (definition : Function)

def libraryName : String := "tmgrammar"

namespace Function

def tokens
    (function : Function) : List Token :=
  [.word "pub", .blank, .word "fn", .blank,
    .word function.name, .sign '(', .sign ')', .blank,
    .sign '-', .sign '>', .blank] ++
    function.returns.tokens ++
    [.blank, .sign '\x7b', .line 1] ++
    function.body.tokens 1 ++
    [.line 0, .sign '\x7d', .line 0]

def items
    (function : Function) : List Item :=
  function.returns.items ++ function.body.items

end Function

namespace Declaration

/- Names with commas between them. -/
def nameTokens : List String → List Token
  | [] => []
  | [name] => [.word name]
  | name :: names =>
      .word name :: .sign ',' :: .blank :: nameTokens names

def tokens : Declaration → List Token
  | .imports items =>
      [.word "use", .blank, .word libraryName] ++ pathSign ++
        .sign '\x7b' :: (nameTokens (items.map Item.name) ++
          [.sign '\x7d', .sign ';', .line 0])
  | .submodule name isPublic =>
      (if isPublic then [.word "pub", .blank] else []) ++
        [.word "mod", .blank, .word name, .sign ';', .line 0]
  | .reexport path name =>
      [.word "pub", .blank, .word "use", .blank,
        .word path] ++ pathSign ++
        [.word name, .sign ';', .line 0]
  | .function definition => definition.tokens

end Declaration

------------------------------------------------------------
-- Files
------------------------------------------------------------

/- The sections of a file, in order. -/
abbrev File := List (List Declaration)

namespace File

def tokens : File → List Token
  | [] => []
  | [block] => block.flatMap Declaration.tokens
  | block :: rest =>
      block.flatMap Declaration.tokens ++ .line 0 ::
        tokens rest

def text
    (file : File) : String :=
  Token.textOf file.tokens

/-
  The file for a function and the modules that it needs: the
  items that the function names are imported.
-/
def ofFunction
    (function : Function)
    (modules : List Declaration) : File :=
  [.imports (Item.sorted function.items)] ::
    ((if modules.isEmpty then [] else [modules]) ++
      [[.function function]])

end File

end Source

end TextMate
