import TextMate.Json.Lexer
import TextMate.Json.Printer

/-
  This file proves that a string is read back from its printed
  form, whatever its characters are.

  Main declarations:
    * `Json.Reads`
    * `Json.skipBlanks_append`
    * `Json.escapeChar_cases`
    * `Json.readString_flatMap`
-/

namespace TextMate

namespace Json

/- A reader gives a value and leaves the rest of a text. -/
def Reads
    {α : Type}
    (read :
      (text : List Char) → Except Fault (α × Rest text))
    (text : List Char)
    (value : α)
    (rest : List Char) : Prop :=
  ∃ hRest, read text = .ok (value, ⟨rest, hRest⟩)

------------------------------------------------------------
-- Blanks
------------------------------------------------------------

/- All blanks up to a character that is none are skipped. -/
theorem skipBlanks_append
    (blanks : List Char)
    (hBlanks : ∀ c ∈ blanks, isBlank c = true)
    {c : Char}
    (hStart : isBlank c = false)
    (rest : List Char) :
    skipBlanks (blanks ++ c :: rest) =
      ⟨c :: rest, by rw [List.length_append]; omega⟩ := by
  apply Subtype.ext
  have hDrop :
      (blanks ++ c :: rest).dropWhile isBlank = c :: rest := by
    rw [List.dropWhile_append_of_pos hBlanks,
      List.dropWhile_cons_of_neg (ne_true_of_eq_false hStart)]
  exact hDrop

/- Where no blank stands in front, nothing is skipped. -/
theorem skipBlanks_cons
    {c : Char}
    (hStart : isBlank c = false)
    (rest : List Char) :
    skipBlanks (c :: rest) = ⟨c :: rest, Nat.le_refl _⟩ :=
  skipBlanks_append [] nofun hStart rest

------------------------------------------------------------
-- Escapes
------------------------------------------------------------

/- The digits of a control character give its number. -/
theorem hexNumber?_digitChar :
    ∀ n < 0x20,
      hexNumber? '0' '0' (Nat.digitChar (n / 16))
          (Nat.digitChar (n % 16)) =
        some n := by
  decide

/- A control character is read from its number. -/
theorem readEscape_control
    {c : Char}
    (hControl : c.toNat < 0x20)
    (text : List Char) :
    Reads readEscape
      ('u' :: '0' :: '0' ::
        Nat.digitChar (c.toNat / 16) ::
        Nat.digitChar (c.toNat % 16) :: text)
      c text := by
  have hHex := hexNumber?_digitChar c.toNat hControl
  have hLow : isLowSurrogate c.toNat = false := by
    simp [isLowSurrogate]
    omega
  have hHigh : isHighSurrogate c.toNat = false := by
    simp [isHighSurrogate]
    omega
  refine ⟨by simp only [List.length_cons]; omega, ?_⟩
  simp only [readEscape, readUnicode, readHex, hHex, hLow,
    hHigh, Bool.false_eq_true, if_false, Char.ofNat_toNat]

/- A letter that has a meaning is read as the meaning. -/
theorem readEscape_simple
    {letter c : Char}
    (hLetter : letter ≠ 'u')
    (hMeaning : simpleEscape? letter = some c)
    (text : List Char) :
    Reads readEscape (letter :: text) c text := by
  refine ⟨by simp, ?_⟩
  rw [readEscape.eq_3 letter text hLetter]
  simp only [hMeaning]

/-
  A character is printed as it is, or as a backslash and what
  is read as the character.
-/
theorem escapeChar_cases
    (c : Char) :
    (escapeChar c = [c] ∧ c ≠ '"' ∧ c ≠ '\\' ∧
        isControl c = false) ∨
      ∃ letters, escapeChar c = '\\' :: letters ∧
        ∀ text, Reads readEscape (letters ++ text) c text := by
  unfold escapeChar
  split
  · exact Or.inr ⟨_, rfl, readEscape_simple (by decide) rfl⟩
  · exact Or.inr ⟨_, rfl, readEscape_simple (by decide) rfl⟩
  · exact Or.inr ⟨_, rfl, readEscape_simple (by decide) rfl⟩
  · exact Or.inr ⟨_, rfl, readEscape_simple (by decide) rfl⟩
  · exact Or.inr ⟨_, rfl, readEscape_simple (by decide) rfl⟩
  · exact Or.inr ⟨_, rfl, readEscape_simple (by decide) rfl⟩
  · exact Or.inr ⟨_, rfl, readEscape_simple (by decide) rfl⟩
  · rename_i hQuote hBackslash _ _ _ _ _
    split
    · rename_i hControl
      exact Or.inr ⟨_, rfl, readEscape_control hControl⟩
    · rename_i hPlain
      refine Or.inl ⟨rfl, hQuote, hBackslash, ?_⟩
      rw [isControl, decide_eq_false_iff_not]
      exact hPlain

------------------------------------------------------------
-- Strings
------------------------------------------------------------

/- A string goes on behind a character of its own. -/
theorem readString_plain
    {c : Char}
    (hQuote : c ≠ '"')
    (hBackslash : c ≠ '\\')
    (hControl : isControl c = false)
    {text value rest : List Char}
    (hText : Reads readString text value rest) :
    Reads readString (c :: text) (c :: value) rest := by
  rcases hText with ⟨hRest, hRead⟩
  refine ⟨by simp only [List.length_cons]; omega, ?_⟩
  rw [readString.eq_4 c text hQuote hBackslash]
  simp only [hControl, hRead, Bool.false_eq_true, if_false]

/- A string goes on behind an escape. -/
theorem readString_escape
    {c : Char}
    {text next value rest : List Char}
    (hEscape : Reads readEscape text c next)
    (hNext : Reads readString next value rest) :
    Reads readString ('\\' :: text) (c :: value) rest := by
  rcases hEscape with ⟨hShorter, hEscape⟩
  rcases hNext with ⟨hRest, hRead⟩
  refine ⟨by simp only [List.length_cons]; omega, ?_⟩
  rw [readString]
  simp only [hEscape, hRead]

/- The printed characters of a string are read back. -/
theorem readString_flatMap
    (value rest : List Char) :
    Reads readString
      (value.flatMap escapeChar ++ '"' :: rest) value rest := by
  induction value with
  | nil =>
      refine ⟨by simp, ?_⟩
      show readString ('"' :: rest) = _
      rw [readString]
  | cons c value ih =>
      rw [List.flatMap_cons, List.append_assoc]
      rcases escapeChar_cases c with
        ⟨hPlain, hQuote, hBackslash, hControl⟩ |
          ⟨letters, hLetters, hEscape⟩
      · rw [hPlain, List.singleton_append]
        exact readString_plain hQuote hBackslash hControl ih
      · rw [hLetters, List.cons_append]
        exact readString_escape (hEscape _) ih

end Json

end TextMate
