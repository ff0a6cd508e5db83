import TextMate.Proofs.Source.Spacing

/-
  This file proves that the lexemes of an expression are read
  as the term of the expression, whatever it stands in.

  Main declarations:
    * `Expr.term`
    * `ReadsPart`
    * `run_expr`
-/

namespace TextMate

namespace Source

------------------------------------------------------------
-- Terms of Expressions
------------------------------------------------------------

/- The path of what is called. -/
def Callee.path : Callee → NamePath
  | .variant name => [name]
  | .member item name => [item.name, name]
  | .entry name => ["repository", name]

namespace Expr

/- The term that an expression is read as. -/
mutual

def term : Expr → Term
  | .quoted text | .literal text => .text text
  | .number value => .number value
  | .call callee arguments =>
      .call callee.path (partTerms arguments)
  | .converted expr => .method expr.term "into"
  | .checked expr => .checked expr.term
  | .pair first second => .pair first.term second.term
  | .array parts => .array (partTerms parts)
  | .vector parts | .row parts => .vector (partTerms parts)
  | .record item fields isComplete =>
      .record [item.name] (fieldTerms fields)
        (if isComplete then none
          else some (.call [item.name, "default"] []))
termination_by structural x => x

/- The terms of parts. -/
def partTerms : List Expr → List Term
  | [] => []
  | part :: parts => part.term :: partTerms parts
termination_by structural x => x

/- The terms of the fields of a record. -/
def fieldTerms : List (String × Expr) → TermFields
  | [] => []
  | (name, value) :: fields =>
      (name, value.term) :: fieldTerms fields
termination_by structural x => x

end

theorem partTerms_eq_map
    (parts : List Expr) :
    partTerms parts = parts.map term := by
  induction parts with
  | nil => rfl
  | cons part parts ih =>
      rw [partTerms, ih]
      rfl

theorem fieldTerms_eq_map
    (fields : List (String × Expr)) :
    fieldTerms fields =
      fields.map fun field => (field.1, field.2.term) := by
  induction fields with
  | nil => rfl
  | cons field fields ih =>
      rw [fieldTerms, ih]
      rfl

theorem fieldTerms_append
    (first second : List (String × Expr)) :
    fieldTerms (first ++ second) =
      fieldTerms first ++ fieldTerms second := by
  rw [fieldTerms_eq_map, fieldTerms_eq_map, fieldTerms_eq_map,
    List.map_append]

end Expr

------------------------------------------------------------
-- Lists
------------------------------------------------------------

/- The lexemes of an expression are read as its term. -/
def ReadsPart
    (expr : Expr) : Prop :=
  ∀ depth contexts rest,
    Parse.run ⟨.start, contexts⟩
        (lexemes (expr.tokens depth) ++ rest) =
      Parse.run ⟨.term expr.term, contexts⟩ rest

/- A lexeme is read, and then those behind it. -/
theorem run_cons
    {parse next : Parse}
    {lexeme : Lexeme}
    (hStep : parse.step lexeme = some next)
    (rest : List Lexeme) :
    parse.run (lexeme :: rest) = next.run rest := by
  rw [Parse.run, hStep]

/- Parts that were read make up a list, which a sign closes. -/
structure IsList
    (context : List Term → Context)
    (sign : Char)
    (whole : List Term → Term) : Prop where
  separate :
    ∀ done term outer,
      Parse.step ⟨.term term, context done :: outer⟩
          (.sign ',') =
        some ⟨.start, context (done ++ [term]) :: outer⟩
  close :
    ∀ done outer,
      Parse.step ⟨.start, context done :: outer⟩ (.sign sign) =
        some ⟨.term (whole done), outer⟩
  closeTerm :
    ∀ done term outer,
      Parse.step ⟨.term term, context done :: outer⟩
          (.sign sign) =
        some ⟨.term (whole (done ++ [term])), outer⟩

theorem isList_arguments
    (path : NamePath) :
    IsList (.arguments path) ')' (.call path) where
  separate _ _ _ := rfl
  close done outer := by
    show some (Parse.mk (.term (.call path (done ++ []))) outer) =
      _
    rw [List.append_nil]
  closeTerm _ _ _ := rfl

theorem isList_array : IsList .array ']' .array where
  separate _ _ _ := rfl
  close done outer := by
    show some (Parse.mk (.term (.array (done ++ []))) outer) = _
    rw [List.append_nil]
  closeTerm _ _ _ := rfl

theorem isList_vector : IsList .vector ']' .vector where
  separate _ _ _ := rfl
  close done outer := by
    show some (Parse.mk (.term (.vector (done ++ []))) outer) = _
    rw [List.append_nil]
  closeTerm _ _ _ := rfl

section Lists

variable {context : List Term → Context}
variable {sign : Char}
variable {whole : List Term → Term}
variable {parts : List Expr}

/- The further parts on one line are read. -/
theorem run_row_behind
    (hList : IsList context sign whole)
    (hParts : ∀ part ∈ parts, ReadsPart part)
    (depth : Nat)
    (done : List Term)
    (term : Term)
    (outer : List Context)
    (rest : List Lexeme) :
    Parse.run ⟨.term term, context done :: outer⟩
        (lexemes (Expr.rowTokens depth false parts) ++
          .sign sign :: rest) =
      Parse.run
        ⟨.term (whole (done ++ term :: parts.map Expr.term)),
          outer⟩
        rest := by
  induction parts generalizing done term with
  | nil => exact run_cons (hList.closeTerm done term outer) rest
  | cons part parts ih =>
      have hRest :=
        ih (fun other hOther =>
            hParts other (List.mem_cons_of_mem _ hOther))
          (done ++ [term]) part.term
      rw [List.append_assoc, List.singleton_append] at hRest
      rw [Expr.rowTokens, if_neg Bool.false_ne_true,
        List.map_cons, ← hRest]
      simp only [List.cons_append, List.nil_append,
        lexemes_sign, lexemes_blank, lexemes_append,
        List.append_assoc]
      rw [run_cons (hList.separate done term outer),
        hParts part List.mem_cons_self]

/- Parts on one line are read. -/
theorem run_row
    (hList : IsList context sign whole)
    (hParts : ∀ part ∈ parts, ReadsPart part)
    (depth : Nat)
    (outer : List Context)
    (rest : List Lexeme) :
    Parse.run ⟨.start, context [] :: outer⟩
        (lexemes (Expr.rowTokens depth true parts) ++
          .sign sign :: rest) =
      Parse.run ⟨.term (whole (parts.map Expr.term)), outer⟩
        rest := by
  cases parts with
  | nil => exact run_cons (hList.close [] outer) rest
  | cons part parts =>
      have hRest :=
        run_row_behind hList
          (fun other hOther =>
            hParts other (List.mem_cons_of_mem _ hOther))
          depth [] part.term outer rest
      rw [List.nil_append] at hRest
      rw [Expr.rowTokens, if_pos rfl, List.nil_append,
        lexemes_append, List.append_assoc,
        hParts part List.mem_cons_self, hRest, List.map_cons]

/- Parts with a line each are read. -/
theorem run_parts
    (hList : IsList context sign whole)
    (hParts : ∀ part ∈ parts, ReadsPart part)
    (depth : Nat)
    (done : List Term)
    (outer : List Context)
    (rest : List Lexeme) :
    Parse.run ⟨.start, context done :: outer⟩
        (lexemes (Expr.partTokens depth parts) ++
          .sign sign :: rest) =
      Parse.run
        ⟨.term (whole (done ++ parts.map Expr.term)), outer⟩
        rest := by
  induction parts generalizing done with
  | nil =>
      rw [List.map_nil, List.append_nil]
      exact run_cons (hList.close done outer) rest
  | cons part parts ih =>
      have hRest :=
        ih (fun other hOther =>
            hParts other (List.mem_cons_of_mem _ hOther))
          (done ++ [part.term])
      rw [List.append_assoc, List.singleton_append] at hRest
      rw [Expr.partTokens, List.map_cons, ← hRest]
      simp only [lexemes_line, lexemes_append, lexemes_sign,
        List.append_assoc, List.cons_append]
      rw [hParts part List.mem_cons_self,
        run_cons (hList.separate done part.term outer)]

end Lists

------------------------------------------------------------
-- Records
------------------------------------------------------------

/- The fields of a record are read. -/
theorem run_fields
    {fields : List (String × Expr)}
    (hFields :
      ∀ field ∈ fields,
        isName field.1 = true ∧ ReadsPart field.2)
    (depth : Nat)
    (path : NamePath)
    (done : TermFields)
    (contexts : List Context)
    (rest : List Lexeme) :
    Parse.run ⟨.fields path done, contexts⟩
        (lexemes (Expr.fieldTokens depth fields) ++ rest) =
      Parse.run
        ⟨.fields path (done ++ Expr.fieldTerms fields),
          contexts⟩
        rest := by
  induction fields generalizing done with
  | nil =>
      rw [Expr.fieldTerms, List.append_nil]
      rfl
  | cons field fields ih =>
      rcases field with ⟨name, value⟩
      rcases hFields _ List.mem_cons_self with ⟨hName, hValue⟩
      have hRest :=
        ih (fun other hOther =>
            hFields other (List.mem_cons_of_mem _ hOther))
          (done ++ [(name, value.term)])
      rw [List.append_assoc, List.singleton_append] at hRest
      have hLabel :
          Parse.step ⟨.fields path done, contexts⟩ (.word name) =
            some ⟨.label path done name, contexts⟩ :=
        if_pos hName
      rw [Expr.fieldTokens, Expr.fieldTerms, ← hRest]
      simp only [lexemes_line, lexemes_word, lexemes_sign,
        lexemes_blank, lexemes_append, List.append_assoc,
        List.cons_append]
      rw [run_cons hLabel, run_cons rfl, hValue, run_cons rfl]

/- What a record is taken from is read. -/
theorem run_default
    (item : Item)
    (depth : Nat)
    (done : TermFields)
    (contexts : List Context)
    (rest : List Lexeme) :
    Parse.run ⟨.fields [item.name] done, contexts⟩
        (lexemes (defaultTokens item depth) ++
          .sign '\x7d' :: rest) =
      Parse.run
        ⟨.term
            (.record [item.name] done
              (some (.call [item.name, "default"] []))),
          contexts⟩
        rest := by
  cases item <;> rfl

------------------------------------------------------------
-- Expressions
------------------------------------------------------------

/- A path of one name is read. -/
theorem run_name
    {name : String}
    (hName : isName name = true)
    (contexts : List Context)
    (rest : List Lexeme) :
    Parse.run ⟨.start, contexts⟩ (.word name :: rest) =
      Parse.run ⟨.path [name], contexts⟩ rest := by
  have hStep :
      Parse.step ⟨.start, contexts⟩ (.word name) =
        some ⟨.path [name], contexts⟩ :=
    if_pos hName
  exact run_cons hStep rest

/- A path of two names is read. -/
theorem run_names
    {first second : String}
    (hFirst : isName first = true)
    (hSecond : isName second = true)
    (contexts : List Context)
    (rest : List Lexeme) :
    Parse.run ⟨.start, contexts⟩
        (.word first :: .sign ':' :: .sign ':' ::
          .word second :: rest) =
      Parse.run ⟨.path [first, second], contexts⟩ rest := by
  have hLast :
      Parse.step ⟨.colons [first], contexts⟩ (.word second) =
        some ⟨.path [first, second], contexts⟩ :=
    if_pos hSecond
  rw [run_name hFirst, run_cons rfl, run_cons rfl,
    run_cons hLast]

/- What is called is read up to its arguments. -/
theorem run_callee
    {callee : Callee}
    (hNamed : callee.isNamed = true)
    (contexts : List Context)
    (rest : List Lexeme) :
    Parse.run ⟨.start, contexts⟩
        (lexemes callee.tokens ++ .sign '(' :: rest) =
      Parse.run ⟨.start, .arguments callee.path [] :: contexts⟩
        rest := by
  cases callee with
  | variant name =>
      have hName := isName_of_isNameWord hNamed
      exact (run_name hName contexts _).trans (run_cons rfl rest)
  | member item name =>
      have hName := isName_of_isNameWord hNamed
      have hItem := isName_of_isNameWord (isNameWord_item item)
      exact
        (run_names hItem hName contexts _).trans
          (run_cons rfl rest)
  | entry name =>
      have hName := isName_of_isNameWord hNamed
      have hEntry : isName "repository" = true := by decide
      exact
        (run_names hEntry hName contexts _).trans
          (run_cons rfl rest)

/- A vector is read up to its parts. -/
theorem run_vec
    (contexts : List Context)
    (rest : List Lexeme) :
    Parse.run ⟨.start, contexts⟩
        (.word "vec" :: .sign '!' :: .sign '[' :: rest) =
      Parse.run ⟨.start, .vector [] :: contexts⟩ rest := rfl

/- The line on which parts end is only layout. -/
theorem lexemes_closingLine
    (depth : Nat)
    (parts : List Expr) :
    lexemes (closingLine depth parts) = [] := by
  rw [closingLine]
  split <;> rfl

/- The lexemes of an expression are read as its term. -/
theorem run_expr
    {expr : Expr}
    (hNamed : expr.isNamed = true) :
    ReadsPart expr := by
  induction expr using Expr.induction with
  | quoted text | literal text | number value =>
      intro depth contexts rest
      rfl
  | call callee arguments ih =>
      intro depth contexts rest
      rw [Expr.isNamed, Bool.and_eq_true, Expr.partsNamed_iff]
        at hNamed
      have hArguments :=
        run_row (isList_arguments callee.path)
          (fun part hPart => ih part hPart (hNamed.2 part hPart))
          depth contexts rest
      rw [Expr.tokens, Expr.term, Expr.partTerms_eq_map,
        ← hArguments]
      simp only [lexemes_append, lexemes_sign, lexemes_nil,
        List.append_assoc, List.cons_append, List.nil_append]
      rw [run_callee hNamed.1]
  | converted expr ih =>
      intro depth contexts rest
      rw [Expr.tokens, Expr.term]
      simp only [lexemes_append, lexemes_sign, lexemes_word,
        lexemes_nil, List.append_assoc, List.cons_append,
        List.nil_append]
      rw [ih hNamed]
      rfl
  | checked expr ih =>
      intro depth contexts rest
      rw [Expr.tokens, Expr.term]
      simp only [lexemes_append, lexemes_sign, lexemes_nil,
        List.append_assoc, List.cons_append, List.nil_append]
      rw [ih hNamed]
      rfl
  | pair first second ihFirst ihSecond =>
      intro depth contexts rest
      rw [Expr.isNamed, Bool.and_eq_true] at hNamed
      rw [Expr.tokens, Expr.term]
      simp only [lexemes_append, lexemes_sign, lexemes_blank,
        lexemes_nil, List.append_assoc, List.cons_append,
        List.nil_append]
      rw [run_cons rfl, ihFirst hNamed.1, run_cons rfl,
        ihSecond hNamed.2]
      rfl
  | array parts ih =>
      intro depth contexts rest
      rw [Expr.isNamed, Expr.partsNamed_iff] at hNamed
      have hParts :=
        run_parts isList_array
          (fun part hPart => ih part hPart (hNamed part hPart))
          (depth + 1) [] contexts rest
      rw [Expr.tokens, Expr.term, Expr.partTerms_eq_map]
      simp only [lexemes_append, lexemes_sign, lexemes_nil,
        lexemes_closingLine, List.append_assoc,
        List.cons_append, List.nil_append] at hParts ⊢
      rw [run_cons rfl]
      exact hParts
  | vector parts ih =>
      intro depth contexts rest
      rw [Expr.isNamed, Expr.partsNamed_iff] at hNamed
      have hParts :=
        run_parts isList_vector
          (fun part hPart => ih part hPart (hNamed part hPart))
          (depth + 1) [] contexts rest
      rw [Expr.tokens, Expr.term, Expr.partTerms_eq_map]
      simp only [lexemes_append, lexemes_sign, lexemes_word,
        lexemes_nil, lexemes_closingLine, List.append_assoc,
        List.cons_append, List.nil_append] at hParts ⊢
      rw [run_vec]
      exact hParts
  | row parts ih =>
      intro depth contexts rest
      rw [Expr.isNamed, Expr.partsNamed_iff] at hNamed
      have hRow :=
        run_row isList_vector
          (fun part hPart => ih part hPart (hNamed part hPart))
          depth contexts rest
      rw [Expr.tokens, Expr.term, Expr.partTerms_eq_map]
      simp only [lexemes_append, lexemes_sign, lexemes_word,
        lexemes_nil, List.append_assoc, List.cons_append,
        List.nil_append]
      rw [run_vec]
      exact hRow
  | record item fields isComplete ih =>
      intro depth contexts rest
      rw [Expr.isNamed, Expr.fieldsNamed_iff] at hNamed
      have hItem := isName_of_isNameWord (isNameWord_item item)
      have hFields :=
        run_fields
          (fun field hField =>
            ⟨isName_of_isNameWord (hNamed field hField).1,
              ih field hField (hNamed field hField).2⟩)
          (depth + 1) [item.name] [] contexts
      rw [Expr.tokens, Expr.term]
      simp only [lexemes_append, lexemes_sign, lexemes_word,
        lexemes_blank, lexemes_line, lexemes_nil,
        List.append_assoc, List.cons_append, List.nil_append]
        at hFields ⊢
      rw [run_name hItem, run_cons rfl, hFields]
      cases isComplete with
      | true => rfl
      | false => exact run_default item _ _ contexts rest

end Source

end TextMate
