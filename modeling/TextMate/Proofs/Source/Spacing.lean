import TextMate.Source.Expr
import TextMate.Proofs.Source.LexTokens
import TextMate.Proofs.Source.Parser

/-
  This file proves that the tokens of an expression are spaced
  if all that it names has a name, whatever the expression
  stands in.

  Main declarations:
    * `Expr.induction`
    * `isNameWord`
    * `Expr.isNamed`
    * `areSpaced_expr`
-/

namespace TextMate

namespace Source

------------------------------------------------------------
-- Induction
------------------------------------------------------------

namespace Expr

/-
  What holds of an expression whenever it holds of its parts
  holds of every expression.
-/
theorem induction
    {motive : Expr → Prop}
    (quoted : ∀ text, motive (.quoted text))
    (literal : ∀ text, motive (.literal text))
    (number : ∀ value, motive (.number value))
    (call :
      ∀ callee arguments, (∀ part ∈ arguments, motive part) →
        motive (.call callee arguments))
    (converted : ∀ expr, motive expr → motive (.converted expr))
    (checked : ∀ expr, motive expr → motive (.checked expr))
    (pair :
      ∀ first second, motive first → motive second →
        motive (.pair first second))
    (array :
      ∀ parts, (∀ part ∈ parts, motive part) →
        motive (.array parts))
    (vector :
      ∀ parts, (∀ part ∈ parts, motive part) →
        motive (.vector parts))
    (row :
      ∀ parts, (∀ part ∈ parts, motive part) →
        motive (.row parts))
    (record :
      ∀ item fields isComplete,
        (∀ field ∈ fields, motive field.2) →
          motive (.record item fields isComplete))
    (expr : Expr) :
    motive expr := by
  have hAgain :
      ∀ inner : Expr, sizeOf inner < sizeOf expr →
        motive inner :=
    fun inner _ =>
      induction quoted literal number call converted checked pair
        array vector row record inner
  have hParts :
      ∀ (parts : List Expr) (part : Expr),
        sizeOf parts < sizeOf expr → part ∈ parts →
          motive part :=
    fun parts part hSize hPart =>
      hAgain part
        (Nat.lt_trans (List.sizeOf_lt_of_mem hPart) hSize)
  cases expr with
  | quoted text => exact quoted text
  | literal text => exact literal text
  | number value => exact number value
  | call callee arguments =>
      refine call _ _ fun part => hParts arguments part ?_
      simp only [Expr.call.sizeOf_spec]
      omega
  | converted expr =>
      exact converted _ (hAgain expr (by simp))
  | checked expr => exact checked _ (hAgain expr (by simp))
  | pair first second =>
      refine
        pair _ _ (hAgain first ?_) (hAgain second ?_) <;>
        · simp only [Expr.pair.sizeOf_spec]
          omega
  | array parts =>
      exact array _ fun part => hParts parts part (by simp)
  | vector parts =>
      exact vector _ fun part => hParts parts part (by simp)
  | row parts =>
      exact row _ fun part => hParts parts part (by simp)
  | record item fields isComplete =>
      refine record _ _ _ fun field hField => hAgain field.2 ?_
      have hSize := List.sizeOf_lt_of_mem hField
      rcases field with ⟨name, value⟩
      simp only [Prod.mk.sizeOf_spec, Expr.record.sizeOf_spec]
        at hSize ⊢
      omega
termination_by sizeOf expr

/- Parts have the items of each of them. -/
theorem partItems_eq_flatMap
    (parts : List Expr) :
    partItems parts = parts.flatMap items := by
  induction parts with
  | nil => rfl
  | cons part parts ih =>
      rw [partItems, ih]
      rfl

/- So have the fields of a record. -/
theorem fieldItems_eq_flatMap
    (fields : List (String × Expr)) :
    fieldItems fields =
      fields.flatMap fun field => field.2.items := by
  induction fields with
  | nil => rfl
  | cons field fields ih =>
      rw [fieldItems, ih]
      rfl

end Expr

------------------------------------------------------------
-- Names
------------------------------------------------------------

/- The text is a word that is a name. -/
def isNameWord
    (text : String) : Bool :=
  (Token.word text).isSound && isName text

theorem isSound_of_isNameWord
    {text : String}
    (hName : isNameWord text = true) :
    (Token.word text).isSound = true :=
  (Bool.and_eq_true_iff.mp hName).1

theorem isName_of_isNameWord
    {text : String}
    (hName : isNameWord text = true) :
    isName text = true :=
  (Bool.and_eq_true_iff.mp hName).2

/- The name of an item is one. -/
theorem isNameWord_item
    (item : Item) :
    isNameWord item.name = true := by
  cases item <;> decide

/- What is called has names. -/
def Callee.isNamed : Callee → Bool
  | .variant name | .member _ name | .entry name =>
      isNameWord name

namespace Expr

/- All that an expression names has a name. -/
mutual

def isNamed : Expr → Bool
  | .quoted _ | .literal _ | .number _ => true
  | .call callee arguments =>
      callee.isNamed && partsNamed arguments
  | .converted expr | .checked expr => expr.isNamed
  | .pair first second => first.isNamed && second.isNamed
  | .array parts | .vector parts | .row parts =>
      partsNamed parts
  | .record _ fields _ => fieldsNamed fields
termination_by structural x => x

/- All that parts name has a name. -/
def partsNamed : List Expr → Bool
  | [] => true
  | part :: parts => part.isNamed && partsNamed parts
termination_by structural x => x

/- The fields of a record have names, and so have values. -/
def fieldsNamed : List (String × Expr) → Bool
  | [] => true
  | (name, value) :: fields =>
      isNameWord name && value.isNamed && fieldsNamed fields
termination_by structural x => x

end

theorem partsNamed_iff
    {parts : List Expr} :
    partsNamed parts = true ↔
      ∀ part ∈ parts, part.isNamed = true := by
  induction parts with
  | nil => simp [partsNamed]
  | cons part parts ih =>
      rw [partsNamed, Bool.and_eq_true, ih, List.forall_mem_cons]

theorem fieldsNamed_iff
    {fields : List (String × Expr)} :
    fieldsNamed fields = true ↔
      ∀ field ∈ fields,
        isNameWord field.1 = true ∧
          field.2.isNamed = true := by
  induction fields with
  | nil => simp [fieldsNamed]
  | cons field fields ih =>
      rw [fieldsNamed, Bool.and_eq_true, Bool.and_eq_true, ih,
        List.forall_mem_cons]

theorem fieldsNamed_append
    (first second : List (String × Expr)) :
    fieldsNamed (first ++ second) =
      (fieldsNamed first && fieldsNamed second) := by
  induction first with
  | nil => rfl
  | cons field first ih =>
      rw [List.cons_append, fieldsNamed, fieldsNamed, ih,
        ← Bool.and_assoc]

end Expr

------------------------------------------------------------
-- Spacing
------------------------------------------------------------

/- The signs that source is written with. -/
theorem isSign_written :
    isSign '(' = true ∧ isSign ')' = true ∧
      isSign '[' = true ∧ isSign ']' = true ∧
        isSign '\x7b' = true ∧ isSign '\x7d' = true ∧
          isSign '<' = true ∧ isSign '>' = true ∧
            isSign ',' = true ∧ isSign ';' = true ∧
              isSign ':' = true ∧ isSign '.' = true ∧
                isSign '?' = true ∧ isSign '!' = true ∧
                  isSign '-' = true := by
  decide

section Spacing

variable {rest : List Token}

@[simp] theorem areSpaced_sign
    (c : Char) :
    areSpaced (.sign c :: rest) =
      (isSign c && areSpaced rest) := by
  simp [areSpaced, Token.isSound, Token.isTight]

@[simp] theorem areSpaced_blank :
    areSpaced (.blank :: rest) = areSpaced rest := by
  simp [areSpaced, Token.isSound, Token.isTight]

@[simp] theorem areSpaced_line
    (depth : Nat) :
    areSpaced (.line depth :: rest) = areSpaced rest := by
  simp [areSpaced, Token.isSound, Token.isTight]

/- A word is apart from what is not tight. -/
@[simp] theorem areSpaced_word
    (text : String) :
    areSpaced (.word text :: rest) =
      ((Token.word text).isSound && startLoose rest &&
        areSpaced rest) := by
  simp [areSpaced, Token.isTight]

@[simp] theorem startLoose_nil : startLoose [] = true := rfl

@[simp] theorem startLoose_sign
    (c : Char) :
    startLoose (.sign c :: rest) = true := rfl

@[simp] theorem startLoose_blank :
    startLoose (.blank :: rest) = true := rfl

@[simp] theorem startLoose_line
    (depth : Nat) :
    startLoose (.line depth :: rest) = true := rfl

/- The path of what is called is spaced. -/
theorem areSpaced_callee
    {callee : Callee}
    (hNamed : callee.isNamed = true)
    (hLoose : startLoose rest = true)
    (hRest : areSpaced rest = true) :
    areSpaced (callee.tokens ++ rest) = true := by
  have hName :
      ∀ {name}, isNameWord name = true →
        (Token.word name).isSound = true :=
    isSound_of_isNameWord
  cases callee with
  | variant name =>
      simp [Callee.tokens, hName hNamed, hLoose, hRest]
  | member item name =>
      have hItem := hName (isNameWord_item item)
      simp [Callee.tokens, pathSign, signs, hItem,
        isSign_written, hName hNamed, hLoose, hRest]
  | entry name =>
      have hItem : (Token.word "repository").isSound = true := by
        decide
      simp [Callee.tokens, pathSign, signs, hItem,
        isSign_written, hName hNamed, hLoose, hRest]

/- A part is spaced wherever it stands. -/
def PartSpaced
    (expr : Expr) : Prop :=
  ∀ depth rest, startLoose rest = true →
    areSpaced rest = true →
      areSpaced (expr.tokens depth ++ rest) = true

/- Parts on one line are spaced, up to the end of the list. -/
theorem areSpaced_row
    {parts : List Expr}
    (hParts : ∀ part ∈ parts, PartSpaced part)
    (depth : Nat)
    (hLoose : startLoose rest = true)
    (hRest : areSpaced rest = true)
    (isFirst : Bool) :
    areSpaced (Expr.rowTokens depth isFirst parts ++ rest) =
        true ∧
      (isFirst = false →
        startLoose (Expr.rowTokens depth isFirst parts ++ rest) =
          true) := by
  induction parts generalizing isFirst with
  | nil => exact ⟨hRest, fun _ => hLoose⟩
  | cons part parts ih =>
      have hOthers :=
        ih (fun other hOther =>
            hParts other (List.mem_cons_of_mem _ hOther))
          false
      have hPart :=
        hParts part List.mem_cons_self depth _
          (hOthers.2 rfl) hOthers.1
      cases isFirst <;>
        simp [Expr.rowTokens, hPart, isSign_written]

/- Parts with a line each are spaced. -/
theorem areSpaced_parts
    {parts : List Expr}
    (hParts : ∀ part ∈ parts, PartSpaced part)
    (depth : Nat)
    (hRest : areSpaced rest = true) :
    areSpaced (Expr.partTokens depth parts ++ rest) = true := by
  induction parts with
  | nil => exact hRest
  | cons part parts ih =>
      have hOthers :=
        ih fun other hOther =>
          hParts other (List.mem_cons_of_mem _ hOther)
      have hPart :=
        hParts part List.mem_cons_self depth
          (.sign ',' :: (Expr.partTokens depth parts ++ rest))
          rfl (by simp [isSign_written, hOthers])
      simpa [Expr.partTokens] using hPart

/- The fields of a record are spaced. -/
theorem areSpaced_fields
    {fields : List (String × Expr)}
    (hFields :
      ∀ field ∈ fields,
        isNameWord field.1 = true ∧ PartSpaced field.2)
    (depth : Nat)
    (hRest : areSpaced rest = true) :
    areSpaced (Expr.fieldTokens depth fields ++ rest) =
      true := by
  induction fields with
  | nil => exact hRest
  | cons field fields ih =>
      rcases field with ⟨name, value⟩
      have hOthers :=
        ih fun other hOther =>
          hFields other (List.mem_cons_of_mem _ hOther)
      rcases hFields _ List.mem_cons_self with ⟨hName, hValue⟩
      have hPart :=
        hValue depth
          (.sign ',' :: (Expr.fieldTokens depth fields ++ rest))
          rfl (by simp [isSign_written, hOthers])
      have hWord := isSound_of_isNameWord hName
      simpa [Expr.fieldTokens, hWord, isSign_written] using hPart

/- What a record is taken from is spaced. -/
theorem areSpaced_default
    (item : Item)
    (depth : Nat)
    (hRest : areSpaced rest = true) :
    areSpaced (defaultTokens item depth ++ rest) = true := by
  have hName :
      (Callee.member item "default").isNamed = true := by
    show isNameWord "default" = true
    decide
  have hBrackets :
      areSpaced (.sign '(' :: .sign ')' :: rest) = true := by
    simp [isSign_written, hRest]
  have hCallee := areSpaced_callee hName rfl hBrackets
  simpa [defaultTokens, signs, isSign_written] using hCallee

end Spacing

/- The tokens of an expression are spaced. -/
theorem areSpaced_expr
    {expr : Expr}
    (hNamed : expr.isNamed = true) :
    PartSpaced expr := by
  induction expr using Expr.induction with
  | quoted text | literal text | number value =>
      intro depth rest hLoose hRest
      simp [Expr.tokens, areSpaced, Token.isSound, hLoose, hRest]
  | call callee arguments ih =>
      intro depth rest hLoose hRest
      rw [Expr.isNamed, Bool.and_eq_true, Expr.partsNamed_iff]
        at hNamed
      have hEnd : areSpaced (.sign ')' :: rest) = true := by
        simp [isSign_written, hRest]
      have hRow :=
        (areSpaced_row
          (fun part hPart => ih part hPart (hNamed.2 part hPart))
          depth rfl hEnd true).1
      have hCallee :=
        @areSpaced_callee
          (.sign '(' ::
            (Expr.rowTokens depth true arguments ++
              .sign ')' :: rest))
          callee hNamed.1 rfl (by simp [isSign_written, hRow])
      simpa [Expr.tokens] using hCallee
  | converted expr ih =>
      intro depth rest hLoose hRest
      have hInto : (Token.word "into").isSound = true := by
        decide
      have hExpr :=
        ih hNamed depth
          (.sign '.' :: .word "into" :: .sign '(' ::
            .sign ')' :: rest)
          rfl (by simp [isSign_written, hInto, hRest])
      simpa [Expr.tokens] using hExpr
  | checked expr ih =>
      intro depth rest hLoose hRest
      have hExpr :=
        ih hNamed depth (.sign '?' :: rest) rfl
          (by simp [isSign_written, hRest])
      simpa [Expr.tokens] using hExpr
  | pair first second ihFirst ihSecond =>
      intro depth rest hLoose hRest
      rw [Expr.isNamed, Bool.and_eq_true] at hNamed
      have hSecond :=
        ihSecond hNamed.2 depth (.sign ')' :: rest) rfl
          (by simp [isSign_written, hRest])
      have hFirst :=
        ihFirst hNamed.1 depth
          (.sign ',' :: .blank ::
            (second.tokens depth ++ .sign ')' :: rest))
          rfl (by simp [isSign_written, hSecond])
      simpa [Expr.tokens, isSign_written] using hFirst
  | array parts ih | vector parts ih =>
      intro depth rest hLoose hRest
      rw [Expr.isNamed, Expr.partsNamed_iff] at hNamed
      have hVec : (Token.word "vec").isSound = true := by decide
      have hEnd :
          areSpaced
              (closingLine depth parts ++ .sign ']' :: rest) =
            true := by
        rw [closingLine]
        split <;> simp [isSign_written, hRest]
      have hParts :=
        areSpaced_parts
          (fun part hPart => ih part hPart (hNamed part hPart))
          (depth + 1) hEnd
      simpa [Expr.tokens, isSign_written, hVec] using hParts
  | row parts ih =>
      intro depth rest hLoose hRest
      rw [Expr.isNamed, Expr.partsNamed_iff] at hNamed
      have hVec : (Token.word "vec").isSound = true := by decide
      have hEnd : areSpaced (.sign ']' :: rest) = true := by
        simp [isSign_written, hRest]
      have hRow :=
        (areSpaced_row
          (fun part hPart => ih part hPart (hNamed part hPart))
          depth rfl hEnd true).1
      simpa [Expr.tokens, isSign_written, hVec] using hRow
  | record item fields isComplete ih =>
      intro depth rest hLoose hRest
      rw [Expr.isNamed, Expr.fieldsNamed_iff] at hNamed
      have hItem := isSound_of_isNameWord (isNameWord_item item)
      have hClose :
          areSpaced (.line depth :: .sign '\x7d' :: rest) =
            true := by
        simp [isSign_written, hRest]
      have hEnd :
          areSpaced
              ((if isComplete then []
                else defaultTokens item (depth + 1)) ++
                .line depth :: .sign '\x7d' :: rest) =
            true := by
        cases isComplete with
        | true => exact hClose
        | false => exact areSpaced_default item _ hClose
      have hFields :=
        areSpaced_fields
          (fun field hField =>
            ⟨(hNamed field hField).1,
              ih field hField (hNamed field hField).2⟩)
          (depth + 1) hEnd
      simpa [Expr.tokens, isSign_written, hItem] using hFields

end Source

end TextMate
