import TextMate.Source.Identifier
import TextMate.Proofs.Source.Spacing

/-
  This file proves that the identifier for a name is a word
  that is a name, whatever the name is.

  Main declarations:
    * `isFormChar`
    * `startingForm`
    * `isFormChar_of_mem_identifier`
    * `isNameWord_identifier`
-/

namespace TextMate

namespace Source

open Text (isLower isUpper isDigit isAlphanumeric)

------------------------------------------------------------
-- Snake Case
------------------------------------------------------------

/- The characters of a snake case form. -/
def isFormChar
    (c : Char) : Bool :=
  isLower c || isDigit c || c == '_'

/- A capital letter has a form in lower case. -/
theorem isLower_toLower
    {c : Char}
    (hUpper : isUpper c = true) :
    isLower c.toLower = true := by
  have hLetters :
      ∀ code : Fin 26,
        isLower (Char.ofNat (65 + code)).toLower = true := by
    decide
  rw [isUpper, Bool.and_eq_true, decide_eq_true_eq,
    decide_eq_true_eq] at hUpper
  have hLow : 65 ≤ c.toNat := hUpper.1
  have hHigh : c.toNat ≤ 90 := hUpper.2
  have hLetter := hLetters ⟨c.toNat - 65, by omega⟩
  have hCode : 65 + (c.toNat - 65) = c.toNat := by omega
  rwa [Fin.val_mk, hCode, Char.ofNat_toNat] at hLetter

/- A snake case form has letters, digits and underscores. -/
theorem isFormChar_of_mem_snakeCase
    {previous : Option Char}
    {afterBar : Bool}
    {name : List Char}
    {c : Char}
    (hMember : c ∈ snakeCase previous afterBar name) :
    isFormChar c = true := by
  have hBar : isFormChar '_' = true := by decide
  induction name generalizing previous afterBar with
  | nil => exact absurd hMember List.not_mem_nil
  | cons first rest ih =>
      rw [snakeCase] at hMember
      by_cases hUpper : isUpper first = true
      · have hFirst : isFormChar first.toLower = true := by
          simp [isFormChar, isLower_toLower hUpper]
        rw [if_pos hUpper] at hMember
        split at hMember
        · rcases List.mem_cons.mp hMember with rfl | hMember
          · exact hBar
          · rcases List.mem_cons.mp hMember with rfl | hMember
            · exact hFirst
            · exact ih hMember
        · rcases List.mem_cons.mp hMember with rfl | hMember
          · exact hFirst
          · exact ih hMember
      · rw [if_neg hUpper] at hMember
        split at hMember
        · rename_i hLetter
          have hFirst : isFormChar first = true := by
            simp only [isAlphanumeric, hUpper, Bool.or_false]
              at hLetter
            simp [isFormChar, hLetter]
          rcases List.mem_cons.mp hMember with rfl | hMember
          · exact hFirst
          · exact ih hMember
        · split at hMember
          · exact ih hMember
          · rcases List.mem_cons.mp hMember with rfl | hMember
            · exact hBar
            · exact ih hMember

------------------------------------------------------------
-- Identifiers
------------------------------------------------------------

/- The form of a name, behind a word if it cannot start. -/
def startingForm
    (name : String) : List Char :=
  if canStart (snakeCase none false name.toList) then
    snakeCase none false name.toList
  else ruleStart ++ snakeCase none false name.toList

/-
  The identifier of a name is its form, with an underscore
  behind it if it is a keyword.
-/
theorem identifier_eq
    (name : String) :
    identifier name =
      if keywords.contains (String.ofList (startingForm name))
      then String.ofList (startingForm name) ++ "_"
      else String.ofList (startingForm name) := rfl

/- The form that is taken can start an identifier. -/
theorem canStart_startingForm
    (name : String) :
    canStart (startingForm name) = true := by
  unfold startingForm
  split
  · assumption
  · rfl

/- The form that is taken is in snake case. -/
theorem isFormChar_of_mem_startingForm
    {name : String}
    {c : Char}
    (hMember : c ∈ startingForm name) :
    isFormChar c = true := by
  have hStart : ruleStart.all isFormChar = true := by decide
  unfold startingForm at hMember
  split at hMember
  · exact isFormChar_of_mem_snakeCase hMember
  · rcases List.mem_append.mp hMember with hRule | hForm
    · exact List.all_eq_true.mp hStart c hRule
    · exact isFormChar_of_mem_snakeCase hForm

/- An identifier is in snake case. -/
theorem isFormChar_of_mem_identifier
    {name : String}
    {c : Char}
    (hMember : c ∈ (identifier name).toList) :
    isFormChar c = true := by
  have hBar : ("_".toList).all isFormChar = true := by decide
  rw [identifier_eq] at hMember
  split at hMember
  · rw [String.toList_append, String.toList_ofList] at hMember
    rcases List.mem_append.mp hMember with hForm | hLast
    · exact isFormChar_of_mem_startingForm hForm
    · exact List.all_eq_true.mp hBar c hLast
  · rw [String.toList_ofList] at hMember
    exact isFormChar_of_mem_startingForm hMember

/- A form that can start is a word. -/
theorem isSound_of_canStart
    {form : List Char}
    (hStart : canStart form = true)
    (hChars : ∀ c ∈ form, isFormChar c = true) :
    (Token.word (String.ofList form)).isSound = true := by
  have hContinues :
      ∀ c, isFormChar c = true → continuesWord c = true := by
    intro c hChar
    simp only [isFormChar, Bool.or_eq_true] at hChar
    rcases hChar with (hLower | hDigit) | hBar
    · simp [continuesWord, startsWord, hLower]
    · simp [continuesWord, hDigit]
    · simp [continuesWord, startsWord, hBar]
  cases form with
  | nil => cases hStart
  | cons c rest =>
      have hFirst := hChars c List.mem_cons_self
      have hStarts : startsWord c = true := by
        simp only [canStart, List.head?_cons, Option.any_some,
          Bool.and_eq_true, Bool.not_eq_true'] at hStart
        simp only [isFormChar, hStart.2, Bool.or_false,
          Bool.or_eq_true] at hFirst
        rcases hFirst with hLower | hBar
        · simp [startsWord, hLower]
        · simp [startsWord, hBar]
      simp only [Token.isSound, String.toList_ofList,
        Bool.and_eq_true, List.all_eq_true]
      exact
        ⟨hStarts, fun other hOther =>
          hContinues other
            (hChars other (List.mem_cons_of_mem _ hOther))⟩

/- The identifier for a name is a name. -/
theorem isNameWord_identifier
    (name : String) :
    isNameWord (identifier name) = true := by
  have hKeywords :
      ∀ word ∈ keywords, isNameWord (word ++ "_") = true := by
    decide +kernel
  have hReserved :
      ∀ word ∈ reservedWords,
        word ∈ keywords ∨ canStart word.toList = false ∨
          word.toList.all isFormChar = false := by
    decide +kernel
  have hStart := canStart_startingForm name
  have hChars : (startingForm name).all isFormChar = true := by
    rw [List.all_eq_true]
    exact fun c hMember =>
      isFormChar_of_mem_startingForm hMember
  rw [identifier_eq]
  split
  · rename_i hKeyword
    exact hKeywords _ (List.contains_iff_mem.mp hKeyword)
  · rename_i hFree
    have hSound :=
      isSound_of_canStart hStart (List.all_eq_true.mp hChars)
    -- The words that are no keywords have no such form.
    have hName : isName (String.ofList (startingForm name)) := by
      rw [isName, Bool.not_eq_true', Bool.eq_false_iff]
      intro hMember
      rcases hReserved _ (List.contains_iff_mem.mp hMember) with
        hKeyword | hNoStart | hOther
      · exact hFree (List.contains_iff_mem.mpr hKeyword)
      · rw [String.toList_ofList, hStart] at hNoStart
        cases hNoStart
      · rw [String.toList_ofList, hChars] at hOther
        cases hOther
    rw [isNameWord, hSound, hName]
    rfl

end Source

end TextMate
