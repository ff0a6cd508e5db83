import TextMate.Proofs.Source.Lexer

/-
  This file defines how lexemes are read as terms and as the
  statements of a file.

  A term is read lexeme by lexeme.  The focus is what was read
  last, and the contexts are what it stands in, from the inner
  one outwards.  A term ends where a lexeme cannot go on with
  it.

  Main declarations:
    * `Term`
    * `Parse`
    * `Parse.step`
    * `Parse.run`
    * `Statement`
    * `readStatements`
-/

namespace TextMate

namespace Source

------------------------------------------------------------
-- Terms
------------------------------------------------------------

/- The words that are no names. -/
def reservedWords : List String :=
  ["Self", "_", "abstract", "as", "async", "await", "become",
    "box", "break", "const", "continue", "crate", "do", "dyn",
    "else", "enum", "extern", "false", "final", "fn", "for",
    "gen", "if", "impl", "in", "let", "loop", "macro", "match",
    "mod", "move", "mut", "override", "priv", "pub", "ref",
    "return", "self", "static", "struct", "super", "trait",
    "true", "try", "type", "typeof", "unsafe", "unsized", "use",
    "virtual", "where", "while", "yield"]

/- A word names something. -/
def isName
    (word : String) : Bool :=
  !reservedWords.contains word

/- A path of names. -/
abbrev NamePath := List String

/- A term, as it is written. -/
inductive Term where
  | text (value : String)
  | number (value : Nat)
  | call (path : NamePath) (arguments : List Term)
  | method (receiver : Term) (name : String)
  | checked (term : Term)
  | pair (first : Term) (second : Term)
  | array (parts : List Term)
  | vector (parts : List Term)
  | record (path : NamePath) (fields : List (String × Term))
      (base : Option Term)

/- The fields of a record that were read so far. -/
abbrev TermFields := List (String × Term)

------------------------------------------------------------
-- States
------------------------------------------------------------

/- What a term stands in, with the parts before it. -/
inductive Context where
  | arguments (path : NamePath) (done : List Term)
  | tuple (done : List Term)
  | array (done : List Term)
  | vector (done : List Term)
  | field (path : NamePath) (done : TermFields) (name : String)
  | base (path : NamePath) (done : TermFields)

/- What was read last. -/
inductive Focus where
  -- A term may start, or a list may end.
  | start
  | path (path : NamePath)
  | colon (path : NamePath)
  | colons (path : NamePath)
  | mark
  | term (term : Term)
  -- Behind the dot of a method, its name, and a bracket.
  | dot (term : Term)
  | method (term : Term) (name : String)
  | bracket (term : Term) (name : String)
  -- A field may start, or the record may end.
  | fields (path : NamePath) (done : TermFields)
  | label (path : NamePath) (done : TermFields) (name : String)
  | dots (path : NamePath) (done : TermFields)

/- The state of reading a term. -/
structure Parse where
  focus : Focus
  contexts : List Context

namespace Parse

variable (contexts : List Context)

/- A list ends, whose last part may be followed by a comma. -/
def close
    (c : Char)
    (last : List Term) : Option Parse :=
  match contexts with
  | .arguments path done :: outer =>
      if c = ')' then
        some ⟨.term (.call path (done ++ last)), outer⟩
      else none
  | .tuple done :: outer =>
      match done ++ last with
      | [first, second] =>
          if c = ')' then some ⟨.term (.pair first second), outer⟩
          else none
      | _ => none
  | .array done :: outer =>
      if c = ']' then some ⟨.term (.array (done ++ last)), outer⟩
      else none
  | .vector done :: outer =>
      if c = ']' then some ⟨.term (.vector (done ++ last)), outer⟩
      else none
  | _ => none

/- What a term stands in ends. -/
def closeTerm
    (c : Char)
    (term : Term) : Option Parse :=
  match contexts with
  | .field path done name :: outer =>
      if c = '\x7d' then
        some
          ⟨.term (.record path (done ++ [(name, term)]) none),
            outer⟩
      else none
  | .base path done :: outer =>
      if c = '\x7d' then
        some ⟨.term (.record path done (some term)), outer⟩
      else none
  | _ => close contexts c [term]

/- A comma follows a term. -/
def separate
    (term : Term) : Option Parse :=
  match contexts with
  | .arguments path done :: outer =>
      some ⟨.start, .arguments path (done ++ [term]) :: outer⟩
  | .tuple done :: outer =>
      some ⟨.start, .tuple (done ++ [term]) :: outer⟩
  | .array done :: outer =>
      some ⟨.start, .array (done ++ [term]) :: outer⟩
  | .vector done :: outer =>
      some ⟨.start, .vector (done ++ [term]) :: outer⟩
  | .field path done name :: outer =>
      some ⟨.fields path (done ++ [(name, term)]), outer⟩
  | _ => none

/- A term starts, or the list that it would stand in ends. -/
def atStart : Lexeme → Option Parse
  | .text value => some ⟨.term (.text value), contexts⟩
  | .number value => some ⟨.term (.number value), contexts⟩
  | .word name =>
      if isName name then some ⟨.path [name], contexts⟩ else none
  | .sign c =>
      if c = '(' then some ⟨.start, .tuple [] :: contexts⟩
      else if c = '[' then some ⟨.start, .array [] :: contexts⟩
      else close contexts c []

/- A path goes on, or something is made at it. -/
def atPath
    (path : NamePath) : Lexeme → Option Parse
  | .sign c =>
      if c = ':' then some ⟨.colon path, contexts⟩
      else if c = '(' then
        some ⟨.start, .arguments path [] :: contexts⟩
      else if c = '\x7b' then some ⟨.fields path [], contexts⟩
      else if c = '!' ∧ path = ["vec"] then
        some ⟨.mark, contexts⟩
      else none
  | _ => none

/- A term goes on, or ends. -/
def atTerm
    (term : Term) : Lexeme → Option Parse
  | .sign c =>
      if c = '.' then some ⟨.dot term, contexts⟩
      else if c = '?' then
        some ⟨.term (.checked term), contexts⟩
      else if c = ',' then separate contexts term
      else closeTerm contexts c term
  | _ => none

/- A field starts, or what the other fields are taken from. -/
def atFields
    (path : NamePath)
    (done : TermFields) : Lexeme → Option Parse
  | .word name =>
      if isName name then some ⟨.label path done name, contexts⟩
      else none
  | .sign c =>
      if c = '\x7d' then
        some ⟨.term (.record path done none), contexts⟩
      else if c = '.' then some ⟨.dots path done, contexts⟩
      else none
  | _ => none

/- Read a lexeme. -/
def step
    (parse : Parse)
    (lexeme : Lexeme) : Option Parse :=
  let ⟨focus, contexts⟩ := parse
  match focus, lexeme with
  | .start, lexeme => atStart contexts lexeme
  | .path path, lexeme => atPath contexts path lexeme
  | .colon path, .sign c =>
      if c = ':' then some ⟨.colons path, contexts⟩ else none
  | .colons path, .word name =>
      if isName name then some ⟨.path (path ++ [name]), contexts⟩
      else none
  | .mark, .sign c =>
      if c = '[' then some ⟨.start, .vector [] :: contexts⟩
      else none
  | .term term, lexeme => atTerm contexts term lexeme
  | .dot term, .word name => some ⟨.method term name, contexts⟩
  | .method term name, .sign c =>
      if c = '(' then some ⟨.bracket term name, contexts⟩
      else none
  | .bracket term name, .sign c =>
      if c = ')' then some ⟨.term (.method term name), contexts⟩
      else none
  | .fields path done, lexeme =>
      atFields contexts path done lexeme
  | .label path done name, .sign c =>
      if c = ':' then
        some ⟨.start, .field path done name :: contexts⟩
      else none
  | .dots path done, .sign c =>
      if c = '.' then some ⟨.start, .base path done :: contexts⟩
      else none
  | _, _ => none

/- The term that was read, if it stands in nothing. -/
def result? : Parse → Option Term
  | ⟨.term term, []⟩ => some term
  | _ => none

/- Read a term to its end. -/
def run
    (parse : Parse) : List Lexeme → Option (Term × List Lexeme)
  | [] => parse.result?.map fun term => (term, [])
  | lexeme :: rest =>
      match parse.step lexeme with
      | some parse => run parse rest
      | none =>
          parse.result?.map fun term => (term, lexeme :: rest)

end Parse

/- Read a term. -/
def readTerm
    (lexemes : List Lexeme) : Option (Term × List Lexeme) :=
  Parse.run ⟨.start, []⟩ lexemes

------------------------------------------------------------
-- Statements
------------------------------------------------------------

/- The type of what a function gives. -/
inductive Returned where
  | plain (name : String)
  | result (name : String) (error : String)
deriving DecidableEq

/- A statement of a file. -/
inductive Statement where
  | imports (library : String) (names : List String)
  | submodule (name : String)
  | reexport (path : String) (name : String)
  | function (name : String) (returns : Returned) (body : Term)

/- Read names up to a closing brace. -/
def readNames : List Lexeme → Option (List String × List Lexeme)
  | .word name :: .sign c :: rest =>
      if c = '\x7d' then some ([name], rest)
      else if c = ',' then
        (readNames rest).map fun (names, rest) =>
          (name :: names, rest)
      else none
  | .sign c :: rest =>
      if c = '\x7d' then some ([], rest) else none
  | _ => none

/- Read the type of what a function gives. -/
def readReturned :
    List Lexeme → Option (Returned × List Lexeme)
  | .word "Result" :: .sign '<' :: .word name :: .sign ',' ::
      .word error :: .sign '>' :: rest =>
      some (.result name error, rest)
  | .word name :: rest => some (.plain name, rest)
  | _ => none

/- Read the term in the braces of a function. -/
def readBody : List Lexeme → Option (Term × List Lexeme)
  | .sign '\x7b' :: rest =>
      match readTerm rest with
      | some (body, .sign '\x7d' :: rest) => some (body, rest)
      | _ => none
  | _ => none

/- Read a function behind its name. -/
def readFunction
    (name : String)
    (lexemes : List Lexeme) :
    Option (Statement × List Lexeme) := do
  let (returns, rest) ← readReturned lexemes
  let (body, rest) ← readBody rest
  return (.function name returns body, rest)

/-
  Read a statement.  Functions and what is imported again are
  public, and submodules may be.
-/
def readStatement :
    List Lexeme → Option (Statement × List Lexeme)
  | .word "use" :: .word library :: .sign ':' :: .sign ':' ::
      .sign '\x7b' :: rest =>
      match readNames rest with
      | some (names, .sign ';' :: rest) =>
          some (.imports library names, rest)
      | _ => none
  | .word "pub" :: .word "use" :: .word path :: .sign ':' ::
      .sign ':' :: .word name :: .sign ';' :: rest =>
      if isName path && isName name then
        some (.reexport path name, rest)
      else none
  | .word "pub" :: .word "mod" :: .word name :: .sign ';' ::
      rest
  | .word "mod" :: .word name :: .sign ';' :: rest =>
      if isName name then some (.submodule name, rest) else none
  | .word "pub" :: .word "fn" :: .word name :: .sign '(' ::
      .sign ')' :: .sign '-' :: .sign '>' :: rest =>
      if isName name then readFunction name rest else none
  | _ => none

------------------------------------------------------------
-- Files
------------------------------------------------------------

/- A term leaves a part of the lexemes. -/
theorem Parse.length_run_le
    {parse : Parse}
    {lexemes rest : List Lexeme}
    {term : Term}
    (hRun : parse.run lexemes = some (term, rest)) :
    rest.length ≤ lexemes.length := by
  induction lexemes generalizing parse with
  | nil =>
      rcases Option.map_eq_some_iff.mp hRun with
        ⟨_, -, hPair⟩
      cases hPair
      exact Nat.le_refl _
  | cons lexeme lexemes ih =>
      rw [run] at hRun
      split at hRun
      · exact Nat.le_succ_of_le (ih hRun)
      · rcases Option.map_eq_some_iff.mp hRun with
          ⟨_, -, hPair⟩
        cases hPair
        exact Nat.le_refl _

/- Names leave a part of the lexemes. -/
theorem length_readNames_le
    {lexemes rest : List Lexeme}
    {names : List String}
    (hRead : readNames lexemes = some (names, rest)) :
    rest.length ≤ lexemes.length := by
  fun_induction readNames lexemes generalizing names with
  | case1 | case4 =>
      cases hRead
      simp only [List.length_cons]
      omega
  | case2 _ _ _ ih =>
      rcases Option.map_eq_some_iff.mp hRead with
        ⟨⟨others, last⟩, hOthers, hPair⟩
      cases hPair
      have hLength := ih hOthers
      simp only [List.length_cons]
      omega
  | case3 | case5 | case6 => cases hRead

/- A type leaves a part of the lexemes. -/
theorem length_readReturned_le
    {lexemes rest : List Lexeme}
    {returns : Returned}
    (hRead : readReturned lexemes = some (returns, rest)) :
    rest.length ≤ lexemes.length := by
  unfold readReturned at hRead
  split at hRead
  all_goals
    cases hRead
    try simp only [List.length_cons]
    try omega

/- The term of a function leaves a part of the lexemes. -/
theorem length_readBody_le
    {lexemes rest : List Lexeme}
    {body : Term}
    (hRead : readBody lexemes = some (body, rest)) :
    rest.length ≤ lexemes.length := by
  unfold readBody at hRead
  split at hRead
  · split at hRead
    · next hTerm =>
        cases hRead
        have hLength := Parse.length_run_le hTerm
        simp only [List.length_cons] at hLength ⊢
        omega
    · cases hRead
  · cases hRead

/- A function leaves a part of the lexemes. -/
theorem length_readFunction_le
    {name : String}
    {lexemes rest : List Lexeme}
    {statement : Statement}
    (hRead :
      readFunction name lexemes = some (statement, rest)) :
    rest.length ≤ lexemes.length := by
  rw [readFunction] at hRead
  rcases Option.bind_eq_some_iff.mp hRead with
    ⟨⟨returns, between⟩, hReturned, hRest⟩
  rcases Option.bind_eq_some_iff.mp hRest with
    ⟨⟨body, last⟩, hBody, hPair⟩
  cases hPair
  exact
    Nat.le_trans (length_readBody_le hBody)
      (length_readReturned_le hReturned)

/- A statement takes at least one lexeme. -/
theorem length_readStatement_lt
    {lexemes rest : List Lexeme}
    {statement : Statement}
    (hRead : readStatement lexemes = some (statement, rest)) :
    rest.length < lexemes.length := by
  unfold readStatement at hRead
  split at hRead
  · split at hRead
    · next hNames =>
        cases hRead
        have hLength := length_readNames_le hNames
        simp only [List.length_cons] at hLength ⊢
        omega
    · cases hRead
  · split at hRead
    · cases hRead
      simp only [List.length_cons]
      omega
    · cases hRead
  · split at hRead
    · cases hRead
      simp only [List.length_cons]
      omega
    · cases hRead
  · split at hRead
    · cases hRead
      simp only [List.length_cons]
      omega
    · cases hRead
  · split at hRead
    · have hLength := length_readFunction_le hRead
      simp only [List.length_cons]
      omega
    · cases hRead
  · cases hRead

/- Read statements to the end of the source. -/
def readStatements
    (lexemes : List Lexeme) : Option (List Statement) :=
  match lexemes with
  | [] => some []
  | lexeme :: rest =>
      match hRead : readStatement (lexeme :: rest) with
      | none => none
      | some (statement, rest) =>
          have := length_readStatement_lt hRead
          (readStatements rest).map fun statements =>
            statement :: statements
termination_by lexemes.length
decreasing_by assumption

/- The statements of a source. -/
def readSource
    (text : String) : Option (List Statement) := do
  readStatements (← lex text)

end Source

end TextMate
