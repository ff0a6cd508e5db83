import Mathlib.Data.List.Sublists
import TextMate.Proofs.Pattern

/-
  This file says which patterns are read back from their own
  texts.

  The text of a pattern with options starts with their group,
  which is split off again.  The text of a pattern without
  options is its source, and this is read as the same pattern
  unless it starts with a group itself.

  Main declarations:
    * `Flags.StartsWithGroup`
    * `Flags.split_group`
    * `Flags.split_fst_eq_none_iff`
    * `Pattern.ofText_text_eq_self_iff`
    * `Pattern.exists_withFlags_ofText`
    * `Pattern.text_determines`
-/

namespace TextMate

namespace Flags

------------------------------------------------------------
-- Letters of Options
------------------------------------------------------------

/- Options are known from their letters. -/
theorem ofLetters_letters
    (flags : Flags) :
    ofLetters flags.letters = flags := by
  rcases flags with ⟨_ | _, _ | _, _ | _⟩ <;> rfl

/- The letters of options stand in a fixed order. -/
theorem letters_sublist
    (flags : Flags) :
    flags.letters.Sublist ['i', 'm', 'x'] := by
  rcases flags with ⟨_ | _, _ | _, _ | _⟩ <;> decide

/- There are no letters just if there is no option. -/
theorem letters_eq_nil_iff
    (flags : Flags) :
    flags.letters = [] ↔ flags = none := by
  refine ⟨fun hNil => ?_, fun hNone => hNone ▸ rfl⟩
  rw [← ofLetters_letters flags, hNil]
  rfl

/- Letters in the fixed order are those of some options. -/
theorem letters_ofLetters
    {letters : List Char}
    (hLetters : letters.Sublist ['i', 'm', 'x']) :
    (ofLetters letters).letters = letters := by
  have hOrders : ∀ order ∈ ['i', 'm', 'x'].sublists,
      (ofLetters order).letters = order := by
    decide
  exact hOrders letters (List.mem_sublists.2 hLetters)

/- No letter closes the group. -/
theorem takeWhile_letters
    (flags : Flags)
    (rest : List Char) :
    (flags.letters ++ ')' :: rest).takeWhile (· != ')') =
      flags.letters := by
  rcases flags with ⟨_ | _, _ | _, _ | _⟩ <;> rfl

/- Behind the letters the group is closed. -/
theorem dropWhile_letters
    (flags : Flags)
    (rest : List Char) :
    (flags.letters ++ ')' :: rest).dropWhile (· != ')') =
      ')' :: rest := by
  rcases flags with ⟨_ | _, _ | _, _ | _⟩ <;> rfl

------------------------------------------------------------
-- Groups in Front
------------------------------------------------------------

/-
  A text starts with a group of options in canonical form: one
  letter or more, each at most once and in the fixed order.
-/
def StartsWithGroup
    (text : List Char) : Prop :=
  ∃ letters rest,
    letters ≠ [] ∧
      letters.Sublist ['i', 'm', 'x'] ∧
      text = '(' :: '?' :: (letters ++ ')' :: rest)

/- A text starts with a group if it has one of some options. -/
theorem startsWithGroup_iff
    (text : List Char) :
    StartsWithGroup text ↔
      ∃ flags rest,
        flags ≠ none ∧ text = flags.group ++ rest := by
  refine ⟨?_, ?_⟩
  · rintro ⟨letters, rest, hSome, hOrder, rfl⟩
    have hLetters := letters_ofLetters hOrder
    refine ⟨ofLetters letters, rest, ?_, ?_⟩
    · rwa [ne_eq, ← letters_eq_nil_iff, hLetters]
    · simp [group, hLetters]
  · rintro ⟨flags, rest, hSome, rfl⟩
    refine ⟨flags.letters, rest, ?_, letters_sublist flags, ?_⟩
    · rwa [ne_eq, letters_eq_nil_iff]
    · simp [group]

/- A group is split off the text that it starts. -/
theorem split_group
    {flags : Flags}
    (hSome : flags ≠ none)
    (source : List Char) :
    split (flags.group ++ source) = (flags, source) := by
  have hText : flags.group ++ source =
      '(' :: '?' :: (flags.letters ++ ')' :: source) := by
    simp [group]
  rw [hText, split, takeWhile_letters, dropWhile_letters,
    ofLetters_letters]
  simp [hSome]

/- Nothing is split off just if a text has no group in front. -/
theorem split_fst_eq_none_iff
    (text : List Char) :
    (split text).1 = none ↔ ¬ StartsWithGroup text := by
  rw [startsWithGroup_iff]
  refine ⟨?_, fun hNot => ?_⟩
  · rintro hNone ⟨flags, rest, hSome, rfl⟩
    rw [split_group hSome] at hNone
    exact hSome hNone
  · rcases split_eq text with ⟨hNone, -⟩ | ⟨hSome, hText⟩
    · exact hNone
    · exact absurd ⟨_, _, hSome, hText.symm⟩ hNot

instance : DecidablePred StartsWithGroup :=
  fun text =>
    decidable_of_iff ((split text).1 ≠ none) <| by
      rw [ne_eq, split_fst_eq_none_iff, not_not]

end Flags

namespace Pattern

------------------------------------------------------------
-- Patterns of Texts
------------------------------------------------------------

/- The pattern of a group of options and a source. -/
theorem ofText_group
    {flags : Flags}
    (hSome : flags ≠ Flags.none)
    (source : String) :
    ofText (String.ofList (flags.group ++ source.toList)) =
      ⟨source, flags⟩ := by
  simp [ofText, Flags.split_group hSome]

/- A text that starts with no group is all source. -/
theorem ofText_eq_iff
    (source : String) :
    ofText source = ⟨source, Flags.none⟩ ↔
      ¬ Flags.StartsWithGroup source.toList := by
  rw [← Flags.split_fst_eq_none_iff]
  refine ⟨fun hText => congrArg Pattern.flags hText, ?_⟩
  intro hNone
  rcases Flags.split_eq source.toList with
    ⟨-, hSource⟩ | ⟨hSome, -⟩
  · simp [ofText, hNone, hSource]
  · exact absurd hNone hSome

/- Texts of different patterns are different. -/
theorem ofText_injective :
    Function.Injective ofText :=
  Function.LeftInverse.injective text_ofText

/-
  A pattern is read back from its text just if it has an option
  or its source starts with no group.
-/
theorem ofText_text_eq_self_iff
    (pattern : Pattern) :
    ofText pattern.text = pattern ↔
      pattern.flags ≠ Flags.none ∨
        ¬ Flags.StartsWithGroup pattern.source.toList := by
  rcases pattern with ⟨source, flags⟩
  by_cases hNone : flags = Flags.none
  · subst hNone
    simpa [Pattern.text] using ofText_eq_iff source
  · rw [Pattern.text, if_neg hNone, ofText_group hNone]
    simp [hNone]

/-
  Every pattern is the pattern of some text with its options
  replaced, so no pattern is left out above.
-/
theorem exists_withFlags_ofText
    (pattern : Pattern) :
    ∃ text, (ofText text).withFlags pattern.flags = pattern := by
  have hSome : (⟨true, false, false⟩ : Flags) ≠ Flags.none := by
    decide
  have hText := congrArg (withFlags · pattern.flags)
    (ofText_group hSome pattern.source)
  exact ⟨_, hText.trans rfl⟩

/-
  A text is written as it was read, and so known from its
  pattern.  A pattern made from a text by replacing the options
  any number of times is known from its own text just if that
  text shows which part of it is the source.
-/
theorem text_determines :
    (∀ text, (ofText text).text = text) ∧
      Function.Injective ofText ∧
      ∀ (text : String) (changes : List Flags),
        let pattern := changes.foldl withFlags (ofText text)
        ofText pattern.text = pattern ↔
          pattern.flags ≠ Flags.none ∨
            ¬ Flags.StartsWithGroup pattern.source.toList :=
  ⟨text_ofText, ofText_injective,
    fun text changes =>
      ofText_text_eq_self_iff
        (changes.foldl withFlags (ofText text))⟩

/-
  The options of the first of two groups are taken away, and
  the second one becomes the options.
-/
example :
    let pattern := (ofText "(?i)(?m)a").withFlags Flags.none
    ofText pattern.text ≠ pattern := by
  decide

end Pattern

end TextMate
