import TextMate.Proofs.Document.Within
import TextMate.Proofs.Json.ReadBack

/-
  This file proves that the texts, the rules and the
  repository of a document are read back from their broad
  forms.  Entries of a repository are read in order, whatever
  their names are.

  Main declarations:
    * `Document.readText_printString`
    * `Document.readPatterns_broad`
    * `Document.readRepository_broad`
-/

namespace TextMate

namespace Document

open Json (Reads AreBlank broad broadItems broadFields
  printString)

------------------------------------------------------------
-- Texts
------------------------------------------------------------

section Texts

variable {blanks : List Char}

/- A text is read behind blanks. -/
theorem readText_printString
    (hBlanks : AreBlank blanks)
    (value : String)
    (rest : List Char) :
    Reads Json.readText (blanks ++ (printString value ++ rest))
      value rest := by
  rw [printString, List.cons_append, List.append_assoc,
    List.singleton_append]
  rcases Json.readString_flatMap value.toList rest with
    ⟨hRest, hRead⟩
  refine
    ⟨by simp only [List.length_append, List.length_cons] at hRest ⊢; omega,
      ?_⟩
  rw [Json.readText,
    Json.skipBlanks_append blanks hBlanks (by decide)]
  simp only [if_true, hRead, String.ofList_toList]

/- A text is read where it may be absent. -/
theorem readOptionalText_printString
    (hBlanks : AreBlank blanks)
    (value : String)
    (rest : List Char) :
    Reads Json.readOptionalText
      (blanks ++ (printString value ++ rest)) (some value)
      rest := by
  have hReads := readText_printString hBlanks value rest
  rw [printString, List.cons_append, List.append_assoc,
    List.singleton_append] at hReads ⊢
  rcases hReads with ⟨hRest, hRead⟩
  refine ⟨hRest, ?_⟩
  rw [Json.readOptionalText,
    Json.skipBlanks_append blanks hBlanks (by decide)]
  show Except.map _ (Json.readText _) = _
  rw [hRead]
  rfl

end Texts

------------------------------------------------------------
-- Rules
------------------------------------------------------------

/- Nothing is left to read at the end of the rules. -/
theorem readRules_close
    {blanks : List Char}
    (hBlanks : AreBlank blanks)
    (depth : Nat)
    (first : Bool)
    (rest : List Char) :
    Reads (readRules depth first) (blanks ++ ']' :: rest) []
      rest := by
  rcases Json.nextItem_close hBlanks first rest with
    ⟨hRest, hNext⟩
  refine ⟨hRest, ?_⟩
  rw [readRules, hNext]

/- A rule is read, and then those behind it. -/
theorem readRules_item
    {depth : Nat}
    {first : Bool}
    {text start next rest : List Char}
    {rule : Json.Object}
    {rules : List Json.Object}
    (hNext :
      ∃ hStart,
        Json.nextItem first text = .ok (.item ⟨start, hStart⟩))
    (hRule : Reads (Json.readObject depth) start rule next)
    (hRules : Reads (readRules depth false) next rules rest) :
    Reads (readRules depth first) text (rule :: rules) rest := by
  rcases hNext with ⟨hStart, hNext⟩
  rcases hRule with ⟨hShorter, hRule⟩
  rcases hRules with ⟨hRest, hRules⟩
  refine ⟨by omega, ?_⟩
  rw [readRules, hNext]
  simp only [hRule, hRules]

/- The further rules of an array are read back. -/
theorem readRules_broadItems
    {depth : Nat}
    {rules : List Json.Object}
    (hRules :
      ∀ rule ∈ rules,
        (Json.Value.object rule).Within Json.Number.IsWord
          depth)
    (level : Nat)
    (rest : List Char) :
    Reads (readRules depth false)
      (broadItems (rules.map Json.Value.object) level ++ rest)
      rules rest := by
  induction rules with
  | nil =>
      rw [List.map_nil, broadItems, List.append_assoc,
        List.singleton_append]
      exact
        readRules_close (Json.areBlank_newLine level) depth
          false rest
  | cons rule rules ih =>
      have hRule := hRules rule List.mem_cons_self
      have hRest :=
        ih fun other hOther =>
          hRules other (List.mem_cons_of_mem _ hOther)
      have hRead :=
        Json.readObject_broad hRule Json.areBlank_nil (level + 1)
          (broadItems (rules.map Json.Value.object) level ++
            rest)
      rcases (Json.isRead_of_within hRule (level + 1)).1 with
        ⟨c, text, hText, hBlank, hOpen⟩
      rw [List.map_cons, broadItems, List.cons_append,
        List.append_assoc, List.append_assoc]
      rw [List.nil_append, hText, List.cons_append] at hRead
      rw [hText, List.cons_append]
      exact
        readRules_item
          (Json.nextItem_comma (Json.areBlank_newLine _) hBlank
            hOpen _)
          hRead hRest

/- An array of rules is read back. -/
theorem readPatterns_broad
    {depth : Nat}
    (hDepth : 1 < depth)
    {rules : List Json.Object}
    (hRules :
      ∀ rule ∈ rules,
        (Json.Value.object rule).Within Json.Number.IsWord
          (depth - 1))
    {blanks : List Char}
    (hBlanks : AreBlank blanks)
    (level : Nat)
    (rest : List Char) :
    Reads (readPatterns depth)
      (blanks ++
        (broad (.array (rules.map Json.Value.object)) level ++
          rest))
      rules rest := by
  have hArray :
      ∀ text,
        Reads (readRules (depth - 1) true) text rules rest →
          Reads (readPatterns depth) (blanks ++ '[' :: text)
            rules rest := by
    rintro text ⟨hRest, hRead⟩
    refine
      ⟨by rw [List.length_append, List.length_cons]; omega, ?_⟩
    have hLevel : ¬depth ≤ 1 := by omega
    rw [readPatterns,
      Json.skipBlanks_append blanks hBlanks (by decide)]
    simp only [if_true, hLevel, if_false, hRead]
    rfl
  cases rules with
  | nil =>
      exact hArray _
        (readRules_close Json.areBlank_nil (depth - 1) true rest)
  | cons rule rules =>
      have hRule := hRules rule List.mem_cons_self
      have hRest :=
        readRules_broadItems
          (fun other hOther =>
            hRules other (List.mem_cons_of_mem _ hOther))
          level rest
      have hRead :=
        Json.readObject_broad hRule Json.areBlank_nil (level + 1)
          (broadItems (rules.map Json.Value.object) level ++
            rest)
      rcases (Json.isRead_of_within hRule (level + 1)).1 with
        ⟨c, text, hText, hBlank, hOpen⟩
      rw [List.map_cons, broad, List.cons_append,
        List.append_assoc, List.append_assoc]
      rw [List.nil_append, hText, List.cons_append] at hRead
      rw [hText, List.cons_append]
      exact hArray _
        (readRules_item
          (Json.nextItem_first (Json.areBlank_newLine _) hBlank
            hOpen _)
          hRead hRest)

------------------------------------------------------------
-- Repositories
------------------------------------------------------------

/- The member for a repository entry. -/
def entryMember
    (entry : String × Json.Object) : String × Json.Value :=
  (entry.1, .object entry.2)

/- Nothing is left to read at the end of a repository. -/
theorem readEntries_close
    {blanks : List Char}
    (hBlanks : AreBlank blanks)
    (depth : Nat)
    (first : Bool)
    (rest : List Char) :
    Reads (readEntries depth first) (blanks ++ '}' :: rest) []
      rest := by
  rcases Json.nextKey_close hBlanks first rest with
    ⟨hRest, hNext⟩
  refine ⟨hRest, ?_⟩
  rw [readEntries, hNext]

/- An entry is read, and then those behind it. -/
theorem readEntries_entry
    {depth : Nat}
    {first : Bool}
    {text start next rest : List Char}
    {name : String}
    {rule : Json.Object}
    {entries : List (String × Json.Object)}
    (hNext :
      ∃ hStart,
        Json.nextKey first text =
          .ok (.key name ⟨':' :: start, hStart⟩))
    (hRule : Reads (Json.readObject depth) start rule next)
    (hEntries :
      Reads (readEntries depth false) next entries rest) :
    Reads (readEntries depth first) text
      ((name, rule) :: entries) rest := by
  rcases hNext with ⟨hStart, hNext⟩
  rcases Json.readColon_colon start with ⟨hColon, hReadColon⟩
  rcases hRule with ⟨hShorter, hRule⟩
  rcases hEntries with ⟨hRest, hEntries⟩
  refine ⟨by omega, ?_⟩
  rw [readEntries, hNext]
  simp only [hReadColon, hRule, hEntries]

/- The further entries of a repository are read back. -/
theorem readEntries_broadFields
    {depth : Nat}
    {entries : List (String × Json.Object)}
    (hEntries :
      ∀ entry ∈ entries,
        (Json.Value.object entry.2).Within Json.Number.IsWord
          depth)
    (level : Nat)
    (rest : List Char) :
    Reads (readEntries depth false)
      (broadFields (entries.map entryMember) level ++ rest)
      entries rest := by
  induction entries with
  | nil =>
      rw [List.map_nil, broadFields, List.append_assoc,
        List.singleton_append]
      exact
        readEntries_close (Json.areBlank_newLine level) depth
          false rest
  | cons entry entries ih =>
      rcases entry with ⟨name, rule⟩
      have hRest :=
        ih fun other hOther =>
          hEntries other (List.mem_cons_of_mem _ hOther)
      have hRead :=
        Json.readObject_broad (hEntries _ List.mem_cons_self)
          Json.areBlank_space (level + 1)
          (broadFields (entries.map entryMember) level ++ rest)
      rw [List.map_cons, entryMember, broadFields,
        List.cons_append, List.append_assoc, List.append_assoc,
        List.append_assoc]
      exact
        readEntries_entry
          (Json.nextKey_comma (Json.areBlank_newLine _) name _)
          hRead hRest

/- A repository is read back. -/
theorem readRepository_broad
    {depth : Nat}
    (hDepth : 1 < depth)
    {entries : List (String × Json.Object)}
    (hEntries :
      ∀ entry ∈ entries,
        (Json.Value.object entry.2).Within Json.Number.IsWord
          (depth - 1))
    {blanks : List Char}
    (hBlanks : AreBlank blanks)
    (level : Nat)
    (rest : List Char) :
    Reads (readRepository depth)
      (blanks ++
        (broad (.object (entries.map entryMember)) level ++
          rest))
      entries rest := by
  have hObject :
      ∀ text,
        Reads (readEntries (depth - 1) true) text entries rest →
          Reads (readRepository depth) (blanks ++ '{' :: text)
            entries rest := by
    rintro text ⟨hRest, hRead⟩
    refine
      ⟨by rw [List.length_append, List.length_cons]; omega, ?_⟩
    have hLevel : ¬depth ≤ 1 := by omega
    rw [readRepository,
      Json.skipBlanks_append blanks hBlanks (by decide)]
    simp only [if_true, hLevel, if_false, hRead]
    rfl
  cases entries with
  | nil =>
      exact hObject _
        (readEntries_close Json.areBlank_nil (depth - 1) true
          rest)
  | cons entry entries =>
      rcases entry with ⟨name, rule⟩
      have hRest :=
        readEntries_broadFields
          (fun other hOther =>
            hEntries other (List.mem_cons_of_mem _ hOther))
          level rest
      have hRead :=
        Json.readObject_broad (hEntries _ List.mem_cons_self)
          Json.areBlank_space (level + 1)
          (broadFields (entries.map entryMember) level ++ rest)
      rw [List.map_cons, entryMember, broad, List.cons_append,
        List.append_assoc, List.append_assoc, List.append_assoc]
      exact hObject _
        (readEntries_entry
          (Json.nextKey_first (Json.areBlank_newLine _) name _)
          hRead hRest)

end Document

end TextMate
