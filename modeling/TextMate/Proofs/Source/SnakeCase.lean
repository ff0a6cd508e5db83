import Mathlib.Data.List.Basic
import TextMate.Proofs.Source.Identifier

/-
  This file proves that every name has a proper identifier, and
  says which names are their own.

  A proper identifier can name a function and the file of a
  module.  A name that is one already stays as it is, unless it
  has two underscores in a row, which a snake case form never
  has.

  Main declarations:
    * `IsIdentifier`
    * `doubleBar`
    * `not_doubleBar_snakeCase`
    * `snakeCase_eq_self`
    * `isIdentifier_identifier`
    * `identifier_of_isIdentifier`
    * `identifier_proper`
-/

namespace TextMate

namespace Source

open Text (isLower isUpper isDigit isAlphanumeric)

------------------------------------------------------------
-- Proper Identifiers
------------------------------------------------------------

/-
  A text of lower case letters, digits and underscores, not all
  of them underscores, that does not start with a digit and is
  no reserved word.
-/
structure IsIdentifier
    (text : String) : Prop where
  nonempty : text ≠ ""
  chars :
    ∀ c ∈ text.toList,
      isLower c = true ∨ isDigit c = true ∨ c = '_'
  start :
    ∀ c, text.toList.head? = some c → isDigit c = false
  solid :
    ∃ c ∈ text.toList, isLower c = true ∨ isDigit c = true
  free : text ∉ reservedWords

/- The characters of a form are the ones of identifiers. -/
theorem isFormChar_iff
    (c : Char) :
    isFormChar c = true ↔
      isLower c = true ∨ isDigit c = true ∨ c = '_' := by
  rw [isFormChar, Bool.or_eq_true, Bool.or_eq_true, beq_iff_eq,
    or_assoc]

/- A form has no letters in upper case. -/
theorem isUpper_of_isFormChar
    {c : Char}
    (hChar : isFormChar c = true) :
    isUpper c = false := by
  rw [Bool.eq_false_iff]
  intro hUpper
  simp only [isUpper, Bool.and_eq_true, decide_eq_true_eq]
    at hUpper
  have hLow : 65 ≤ c.toNat := hUpper.1
  have hHigh : c.toNat ≤ 90 := hUpper.2
  rcases (isFormChar_iff c).mp hChar with hLower | hDigit | rfl
  · simp only [isLower, Bool.and_eq_true, decide_eq_true_eq]
      at hLower
    have hLetter : 97 ≤ c.toNat := hLower.1
    omega
  · simp only [isDigit, Bool.and_eq_true, decide_eq_true_eq]
      at hDigit
    have hNumber : c.toNat ≤ 57 := hDigit.2
    omega
  · revert hHigh
    decide

/- So its letters and digits are those of identifiers. -/
theorem isAlphanumeric_iff_of_isFormChar
    {c : Char}
    (hChar : isFormChar c = true) :
    isAlphanumeric c = true ↔
      isLower c = true ∨ isDigit c = true := by
  rw [isAlphanumeric, isUpper_of_isFormChar hChar,
    Bool.or_false, Bool.or_eq_true]

------------------------------------------------------------
-- Underscores
------------------------------------------------------------

/- Two underscores in a row. -/
def doubleBar : List Char := ['_', '_']

/- Two underscores are at the start, or behind it. -/
theorem doubleBar_infix_cons_iff
    (c : Char)
    (rest : List Char) :
    doubleBar <:+: c :: rest ↔
      (c = '_' ∧ rest.head? = some '_') ∨
        doubleBar <:+: rest := by
  rw [List.infix_cons_iff]
  refine or_congr_left ?_
  cases rest with
  | nil => simp [doubleBar]
  | cons next rest => simp [doubleBar, eq_comm]

/-
  A snake case form never has two underscores in a row.  Where
  an underscore came last, the character of the name before ends
  no word, so none is put in front of a capital letter either.
-/
theorem not_doubleBar_snakeCase
    {previous : Option Char}
    {afterBar : Bool}
    (name : List Char)
    (hLast : afterBar = true → previous.any endsWord = false) :
    (afterBar = true →
        (snakeCase previous afterBar name).head? ≠ some '_') ∧
      ¬doubleBar <:+: snakeCase previous afterBar name := by
  induction name generalizing previous afterBar with
  | nil => simp [snakeCase, doubleBar]
  | cons c rest ih =>
      have hWord :=
        @ih (some c) false fun hNot =>
          absurd hNot Bool.false_ne_true
      rw [snakeCase]
      by_cases hUpper : isUpper c = true
      · have hLetter : c.toLower ≠ '_' := by
          intro hBar
          have hLower := isLower_toLower hUpper
          rw [hBar] at hLower
          revert hLower
          decide
        rw [if_pos hUpper]
        split
        · rename_i hEnds
          refine ⟨fun hBar => ?_, ?_⟩
          · rw [hLast hBar] at hEnds
            cases hEnds
          · simp [doubleBar_infix_cons_iff, hLetter, hWord.2]
        · simp [doubleBar_infix_cons_iff, hLetter, hWord.2]
      · rw [if_neg hUpper]
        by_cases hAlpha : isAlphanumeric c = true
        · have hLetter : c ≠ '_' := by
            rintro rfl
            revert hAlpha
            decide
          rw [if_pos hAlpha]
          simp [doubleBar_infix_cons_iff, hLetter, hWord.2]
        · have hEnds : (some c).any endsWord = false := by
            simp only [isAlphanumeric, Bool.or_eq_true, not_or,
              Bool.not_eq_true] at hAlpha
            simp [endsWord, hAlpha]
          have hBar := @ih (some c) true fun _ => hEnds
          rw [if_neg hAlpha]
          split
          · exact ⟨fun _ => hBar.1 rfl, hBar.2⟩
          · rename_i hFree
            refine ⟨fun hAgain => absurd hAgain hFree, ?_⟩
            simp [doubleBar_infix_cons_iff, hBar.1 rfl, hBar.2]

/- A name in snake case without two underscores is its form. -/
theorem snakeCase_eq_self
    {previous : Option Char}
    {afterBar : Bool}
    {name : List Char}
    (hChars : ∀ c ∈ name, isFormChar c = true)
    (hLast : afterBar = true → name.head? ≠ some '_')
    (hSingle : ¬doubleBar <:+: name) :
    snakeCase previous afterBar name = name := by
  induction name generalizing previous afterBar with
  | nil => rfl
  | cons c rest ih =>
      have hFirst := hChars c List.mem_cons_self
      have hOthers : ∀ other ∈ rest, isFormChar other = true :=
        fun other hOther =>
          hChars other (List.mem_cons_of_mem _ hOther)
      rw [doubleBar_infix_cons_iff, not_or, not_and] at hSingle
      rw [snakeCase, isUpper_of_isFormChar hFirst,
        if_neg Bool.false_ne_true]
      split
      · have hRest :=
          @ih (some c) false hOthers
            (fun hNot => absurd hNot Bool.false_ne_true)
            hSingle.2
        rw [hRest]
      · rename_i hAlpha
        rw [isAlphanumeric_iff_of_isFormChar hFirst] at hAlpha
        have hBar : c = '_' := by
          rcases (isFormChar_iff c).mp hFirst with
            hLower | hDigit | hBar
          · exact absurd (Or.inl hLower) hAlpha
          · exact absurd (Or.inr hDigit) hAlpha
          · exact hBar
        have hFree : ¬afterBar = true := fun hAgain =>
          hLast hAgain (congrArg some hBar)
        rw [if_neg hFree,
          ih hOthers (fun _ => hSingle.1 hBar) hSingle.2, hBar]

------------------------------------------------------------
-- Identifiers of Names
------------------------------------------------------------

/- An identifier is the form of the name, or goes on from it. -/
theorem startingForm_prefix_identifier
    (name : String) :
    startingForm name <+: (identifier name).toList := by
  rw [identifier_eq]
  split
  · rw [String.toList_append, String.toList_ofList]
    exact List.prefix_append _ _
  · exact ⟨[], by rw [List.append_nil, String.toList_ofList]⟩

/- A form can start if it has a letter or a digit, and starts
  with no digit. -/
theorem canStart_iff
    (form : List Char) :
    canStart form = true ↔
      (∃ c ∈ form, isAlphanumeric c = true) ∧
        ∀ c, form.head? = some c → isDigit c = false := by
  rw [canStart, Bool.and_eq_true, List.any_eq_true]
  cases form with
  | nil => simp
  | cons c rest => simp

/- The identifier for a name is a proper one. -/
theorem isIdentifier_identifier
    (name : String) :
    IsIdentifier (identifier name) := by
  rcases (canStart_iff _).mp (canStart_startingForm name) with
    ⟨⟨c, hMember, hAlpha⟩, hStart⟩
  have hPrefix := startingForm_prefix_identifier name
  have hFound := hPrefix.subset hMember
  have hChar := isFormChar_of_mem_identifier hFound
  constructor
  · intro hEmpty
    rw [hEmpty] at hFound
    exact absurd hFound List.not_mem_nil
  · intro other hOther
    exact
      (isFormChar_iff other).mp
        (isFormChar_of_mem_identifier hOther)
  · intro first hFirst
    rcases hPrefix with ⟨rest, hRest⟩
    have hForm := List.ne_nil_of_mem hMember
    rw [← hRest, List.head?_append_of_ne_nil _ hForm] at hFirst
    exact hStart first hFirst
  · exact
      ⟨c, hFound,
        (isAlphanumeric_iff_of_isFormChar hChar).mp hAlpha⟩
  · have hName :=
      isName_of_isNameWord (isNameWord_identifier name)
    rw [isName, Bool.not_eq_true', Bool.eq_false_iff] at hName
    exact fun hMember =>
      hName (List.contains_iff_mem.mpr hMember)

/- Every keyword is a reserved word. -/
theorem mem_reservedWords_of_mem_keywords
    {word : String}
    (hWord : word ∈ keywords) :
    word ∈ reservedWords := by
  have hAll : keywords.all reservedWords.contains = true := by
    decide +kernel
  exact
    List.contains_iff_mem.mp
      (List.all_eq_true.mp hAll word hWord)

/- A proper identifier without two underscores is its own. -/
theorem identifier_of_isIdentifier
    {name : String}
    (hName : IsIdentifier name)
    (hSingle : ¬doubleBar <:+: name.toList) :
    identifier name = name := by
  have hChars : ∀ c ∈ name.toList, isFormChar c = true :=
    fun c hMember =>
      (isFormChar_iff c).mpr (hName.chars c hMember)
  have hForm : snakeCase none false name.toList = name.toList :=
    snakeCase_eq_self hChars
      (fun hNot => absurd hNot Bool.false_ne_true) hSingle
  have hStart : canStart name.toList = true := by
    rcases hName.solid with ⟨c, hMember, hAlpha⟩
    have hSolid :=
      (isAlphanumeric_iff_of_isFormChar (hChars c hMember)).mpr
        hAlpha
    exact
      (canStart_iff _).mpr ⟨⟨c, hMember, hSolid⟩, hName.start⟩
  have hFree : ¬keywords.contains name = true := fun hKeyword =>
    hName.free
      (mem_reservedWords_of_mem_keywords
        (List.contains_iff_mem.mp hKeyword))
  rw [identifier_eq, startingForm, hForm, if_pos hStart,
    String.ofList_toList, if_neg hFree]

/- A name that is its own identifier has no two underscores. -/
theorem not_doubleBar_of_identifier_eq
    {name : String}
    (hSame : identifier name = name) :
    ¬doubleBar <:+: name.toList := by
  have hKeywords :
      ∀ word ∈ keywords,
        ¬doubleBar <:+: (word ++ "_").toList := by
    decide +kernel
  have hForm :=
    (@not_doubleBar_snakeCase none false name.toList
      fun hNot => absurd hNot Bool.false_ne_true).2
  have hStart :
      canStart (snakeCase none false name.toList) = true := by
    refine Decidable.byContradiction fun hNot => ?_
    -- Such a name starts like a rule, and so does its form.
    have hPrefix := startingForm_prefix_identifier name
    rw [hSame, startingForm, if_neg hNot] at hPrefix
    rcases hPrefix with ⟨rest, hRest⟩
    rw [← hRest] at hNot
    exact hNot rfl
  rw [identifier_eq, startingForm, if_pos hStart] at hSame
  split at hSame
  · rename_i hKeyword
    rw [← hSame]
    exact hKeywords _ (List.contains_iff_mem.mp hKeyword)
  · have hChars := congrArg String.toList hSame
    rw [String.toList_ofList] at hChars
    rwa [hChars] at hForm

/-
  Every name has a proper identifier: it is not empty, has lower
  case letters, digits and underscores alone, among them a
  letter or a digit, starts with no digit and is no reserved
  word.  It is the name itself just if this is such a text
  already, and has no two underscores in a row.
-/
theorem identifier_proper
    (name : String) :
    IsIdentifier (identifier name) ∧
      (identifier name = name ↔
        IsIdentifier name ∧ ¬doubleBar <:+: name.toList) := by
  refine ⟨isIdentifier_identifier name, ?_, ?_⟩
  · intro hSame
    have hProper := isIdentifier_identifier name
    rw [hSame] at hProper
    exact ⟨hProper, not_doubleBar_of_identifier_eq hSame⟩
  · rintro ⟨hName, hSingle⟩
    exact identifier_of_isIdentifier hName hSingle

/- Two underscores become one, and a keyword gets one more. -/
example :
    identifier "a__b" = "a_b" ∧
      identifier "match" = "match_" := by
  decide +kernel

end Source

end TextMate
