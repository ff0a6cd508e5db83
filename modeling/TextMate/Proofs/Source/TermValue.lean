import TextMate.Source.File
import TextMate.Proofs.Source.Evaluation
import TextMate.Proofs.Source.ParseExpr

/-
  This file proves what the terms of expressions come to where
  the items that an expression names are imported.

  Main declarations:
    * `Names.Covers`
    * `evaluateAll_map`
    * `evaluateFields_map`
    * `evaluate_constant`, `evaluate_apply`
    * `evaluate_present`
-/

namespace TextMate

namespace Source

------------------------------------------------------------
-- Imports
------------------------------------------------------------

namespace Names

/- Every item of a list is imported. -/
def Covers
    (names : Names)
    (items : List Item) : Prop :=
  ∀ item ∈ items, item.name ∈ names.imports

variable {names : Names}

/- The items of a part of a list are imported with the list. -/
theorem Covers.part
    {parts : List Expr}
    (hCovers : names.Covers (Expr.partItems parts))
    {part : Expr}
    (hPart : part ∈ parts) :
    names.Covers part.items := by
  rw [Expr.partItems_eq_flatMap] at hCovers
  intro item hItem
  exact hCovers item (List.mem_flatMap.mpr ⟨part, hPart, hItem⟩)

/- The items of a field are imported with the fields. -/
theorem Covers.field
    {fields : List (String × Expr)}
    (hCovers : names.Covers (Expr.fieldItems fields))
    {field : String × Expr}
    (hField : field ∈ fields) :
    names.Covers field.2.items := by
  rw [Expr.fieldItems_eq_flatMap] at hCovers
  intro item hItem
  exact
    hCovers item (List.mem_flatMap.mpr ⟨field, hField, hItem⟩)

/- The first item of a list is imported, and the others are. -/
theorem Covers.cons
    {item : Item}
    {items : List Item}
    (hCovers : names.Covers (item :: items)) :
    item.name ∈ names.imports ∧ names.Covers items :=
  ⟨hCovers item List.mem_cons_self,
    fun other hOther =>
      hCovers other (List.mem_cons_of_mem _ hOther)⟩

end Names

------------------------------------------------------------
-- Lists
------------------------------------------------------------

section Lists

variable {names : Names}
variable {α : Type}
variable {items : List α}

/- Values that are read one by one are read as a list. -/
theorem mapM_map_eq_some
    {β γ : Type}
    {read : β → Option γ}
    {wrap : α → β}
    {result : α → γ}
    (hItems :
      ∀ item ∈ items, read (wrap item) = some (result item)) :
    (items.map wrap).mapM read = some (items.map result) := by
  induction items with
  | nil => rfl
  | cons item items ih =>
      have hFirst := hItems item List.mem_cons_self
      have hRest :=
        ih fun other hOther =>
          hItems other (List.mem_cons_of_mem _ hOther)
      rw [List.map_cons, List.mapM_cons, hFirst, hRest]
      rfl

/- Terms in order come to their values in order. -/
theorem evaluateAll_map
    {term : α → Term}
    {value : α → Value}
    (hItems :
      ∀ item ∈ items,
        (term item).evaluate names = .ok (value item)) :
    Term.evaluateAll names (items.map term) =
      .ok (items.map value) := by
  induction items with
  | nil => rfl
  | cons item items ih =>
      have hFirst := hItems item List.mem_cons_self
      have hRest :=
        ih fun other hOther =>
          hItems other (List.mem_cons_of_mem _ hOther)
      rw [List.map_cons, Term.evaluateAll, hFirst, hRest]
      rfl

/- The fields of a record come to their values in order. -/
theorem evaluateFields_map
    {name : α → String}
    {term : α → Term}
    {value : α → Value}
    (hItems :
      ∀ item ∈ items,
        (term item).evaluate names = .ok (value item)) :
    Term.evaluateFields names
        (items.map fun item => (name item, term item)) =
      .ok (items.map fun item => (name item, value item)) := by
  induction items with
  | nil => rfl
  | cons item items ih =>
      have hFirst := hItems item List.mem_cons_self
      have hRest :=
        ih fun other hOther =>
          hItems other (List.mem_cons_of_mem _ hOther)
      rw [List.map_cons, Term.evaluateFields, hFirst, hRest]
      rfl

/- The fields of two lists come to the values of both. -/
theorem evaluateFields_append
    {first second : TermFields}
    {firstValues secondValues : List (String × Value)}
    (hFirst :
      Term.evaluateFields names first = .ok firstValues)
    (hSecond :
      Term.evaluateFields names second = .ok secondValues) :
    Term.evaluateFields names (first ++ second) =
      .ok (firstValues ++ secondValues) := by
  induction first generalizing firstValues with
  | nil =>
      cases hFirst
      exact hSecond
  | cons field fields ih =>
      rcases field with ⟨name, term⟩
      rw [Term.evaluateFields] at hFirst
      cases hTerm : term.evaluate names with
      | error stop =>
          rw [hTerm] at hFirst
          cases hFirst
      | ok value =>
          cases hFields : Term.evaluateFields names fields with
          | error stop =>
              rw [hTerm, hFields] at hFirst
              cases hFirst
          | ok values =>
              rw [hTerm, hFields] at hFirst
              cases hFirst
              rw [List.cons_append, Term.evaluateFields, hTerm,
                ih hFields]
              rfl

end Lists

------------------------------------------------------------
-- Calls
------------------------------------------------------------

/- What the function at a path gives for its arguments. -/
def Builtin.call?
    (path : NamePath)
    (arguments : List Value) : Option Value :=
  (all.lookup path).bind fun function =>
    function.apply arguments

section Calls

variable {names : Names}
variable {item : Item}
variable {name : String}

/- A function of an item is called where it is imported. -/
theorem call_member
    {arguments : List Value}
    {result : Value}
    (hImported : item.name ∈ names.imports)
    (hResult :
      Builtin.call? [item.name, name] arguments =
        some result) :
    names.call [item.name, name] arguments = .ok result := by
  have hOther : item.name ≠ "repository" := by
    cases item <;> decide
  unfold Names.call
  split
  · rename_i hPath
    exact absurd (List.cons.inj hPath).1 hOther
  · rw [Builtin.call?] at hResult
    rw [Names.builtin?, if_pos hImported, hResult]
    rfl

/- The value of a function without arguments. -/
theorem evaluate_constant
    {result : Value}
    (hImported : item.name ∈ names.imports)
    (hResult :
      Builtin.call? [item.name, name] [] = some result) :
    (Expr.constant item name).term.evaluate names =
      .ok result :=
  call_member hImported hResult

/- The value of a function on an argument. -/
theorem evaluate_apply
    {argument : Expr}
    {value result : Value}
    (hImported : item.name ∈ names.imports)
    (hArgument : argument.term.evaluate names = .ok value)
    (hResult :
      Builtin.call? [item.name, name] [value] =
        some result) :
    (Expr.apply item name argument).term.evaluate names =
      .ok result := by
  have hCall := call_member hImported hResult
  simp only [Expr.apply, Expr.term, Expr.partTerms,
    Term.evaluate, Term.evaluateAll, hArgument]
  exact hCall

/- A value that is there comes to one that is there. -/
theorem evaluate_present
    {expr : Expr}
    {value : Value}
    (hValue : expr.term.evaluate names = .ok value) :
    (Expr.present expr).term.evaluate names =
      .ok (.present value) := by
  simp only [Expr.present, Expr.term, Expr.partTerms,
    Term.evaluate, Term.evaluateAll, hValue]
  rfl

/- A converted value is kept as such. -/
theorem evaluate_converted
    {expr : Expr}
    {value : Value}
    (hValue : expr.term.evaluate names = .ok value) :
    (Expr.converted expr).term.evaluate names =
      .ok (.converted value) := by
  simp only [Expr.term, Term.evaluate, hValue]
  rfl

/- A pair comes to the pair of its values. -/
theorem evaluate_pair
    {first second : Expr}
    {firstValue secondValue : Value}
    (hFirst : first.term.evaluate names = .ok firstValue)
    (hSecond : second.term.evaluate names = .ok secondValue) :
    (Expr.pair first second).term.evaluate names =
      .ok (.pair firstValue secondValue) := by
  simp only [Expr.term, Term.evaluate, hFirst, hSecond]
  rfl

/- A vector comes to the values of its parts. -/
theorem evaluate_vector
    {parts : List Expr}
    {values : List Value}
    (hParts :
      Term.evaluateAll names (parts.map Expr.term) =
        .ok values) :
    (Expr.vector parts).term.evaluate names =
      .ok (.vector values) := by
  simp only [Expr.term, Expr.partTerms_eq_map, Term.evaluate,
    hParts]
  rfl

/- An array comes to the values of its parts. -/
theorem evaluate_array
    {parts : List Expr}
    {values : List Value}
    (hParts :
      Term.evaluateAll names (parts.map Expr.term) =
        .ok values) :
    (Expr.array parts).term.evaluate names =
      .ok (.array values) := by
  simp only [Expr.term, Expr.partTerms_eq_map, Term.evaluate,
    hParts]
  rfl

/-
  A record is built of its fields, and of the default of its
  item if it leaves fields out.
-/
theorem evaluate_record
    {fields : List (String × Expr)}
    {values : List (String × Value)}
    {isComplete : Bool}
    {base result : Value}
    (hImported : item.name ∈ names.imports)
    (hFields :
      Term.evaluateFields names (Expr.fieldTerms fields) =
        .ok values)
    (hBase :
      Builtin.call? [item.name, "default"] [] = some base)
    (hResult :
      buildItem item.name values
          (if isComplete then none else some base) =
        some result) :
    (Expr.record item fields isComplete).term.evaluate names =
      .ok result := by
  have hDefault :
      Term.evaluate? names
          (if isComplete then none
            else some (.call [item.name, "default"] [])) =
        .ok (if isComplete then none else some base) := by
    cases isComplete with
    | true => rfl
    | false =>
        simp only [Bool.false_eq_true, if_false,
          Term.evaluate?, Term.evaluate, Term.evaluateAll,
          bind, Except.bind, call_member hImported hBase]
        rfl
  simp only [Expr.term, Term.evaluate, hFields, hDefault]
  show names.record [item.name] values _ = _
  rw [Names.record, if_pos hImported, hResult]
  rfl

end Calls

end Source

end TextMate
