import TextMate.Proofs.Document.ReadBack
import TextMate.Proofs.Document.ReadWithin
import TextMate.Proofs.Import.DocumentAccount
import TextMate.Proofs.Json.Numbers

/-
  This file proves that writing and reading a document undo each
  other.

  The limits on a document are limits on the one value that it
  is written as: how deep this is nested, and which numbers are
  in it.  Of documents with integers of 64 bits only, those come
  back from their texts that are tidy, nested within the limit,
  and have no extra field with the key of a modelled one.

  Main declarations:
    * `Document.written`
    * `Document.forall_members_iff`
    * `Document.within_iff`
    * `Document.ofText_text_iff`
-/

namespace TextMate

open Json.Number (IsWord)

namespace Document

------------------------------------------------------------
-- Members
------------------------------------------------------------

/- The value that a document is written as. -/
def written
    (document : Document) : Json.Value :=
  .object document.members

/- The rules of the root as the value under their key. -/
def patternsValue
    (document : Document) : Json.Value :=
  .array (document.patterns.map Json.Value.object)

/- The repository as the value under its key. -/
def repositoryValue
    (document : Document) : Json.Value :=
  .object
    (document.repository.map fun (name, rule) =>
      (name, .object rule))

/-
  What holds of texts holds of the members that are written
  just if it holds of the rules, of the repository where it has
  an entry, and of the extra fields.
-/
theorem forall_members_iff
    (holds : Json.Value → Prop)
    (hTexts : ∀ text, holds (.string text))
    (document : Document) :
    (∀ member ∈ document.members, holds member.2) ↔
      holds document.patternsValue ∧
        (document.repository ≠ [] →
          holds document.repositoryValue) ∧
        ∀ field ∈ document.extra, holds field.2 := by
  have hSelector :
      ∀ member ∈ document.selectorMember, holds member.2 := by
    intro member hMember
    rw [selectorMember] at hMember
    split at hMember
    · rw [List.mem_singleton.mp hMember]
      exact hTexts _
    · cases hMember
  have hRepository :
      (∀ member ∈ document.repositoryMember, holds member.2) ↔
        (document.repository ≠ [] →
          holds document.repositoryValue) := by
    rw [repositoryMember]
    cases hEntries : document.repository with
    | nil => simp
    | cons entry rest => simp [repositoryValue, hEntries]
  rw [members, List.forall_mem_append, List.forall_mem_append,
    List.forall_mem_append, List.forall_mem_append, hRepository,
    and_iff_left hSelector]
  simp [hTexts, patternsValue, and_assoc]

------------------------------------------------------------
-- Limits
------------------------------------------------------------

/- The form of numbers is that of those in the root fields. -/
theorem forall_numbers_written_iff
    {form : Json.Number → Prop}
    (document : Document) :
    (∀ number ∈ document.written.numbers, form number) ↔
      (∀ members ∈ document.patterns,
          ∀ number ∈ (Json.Value.object members).numbers,
            form number) ∧
        (∀ entry ∈ document.repository,
          ∀ number ∈ (Json.Value.object entry.2).numbers,
            form number) ∧
        ∀ field ∈ document.extra,
          ∀ number ∈ field.2.numbers, form number := by
  rw [written, Json.Value.forall_numbers_object_iff,
    forall_members_iff
      (fun value => ∀ number ∈ value.numbers, form number)
      (fun _ => nofun),
    patternsValue, repositoryValue,
    Json.Value.forall_numbers_array_iff,
    Json.Value.forall_numbers_object_iff,
    List.forall_mem_map, List.forall_mem_map]
  refine and_congr_right fun _ => and_congr_left fun _ => ?_
  refine
    ⟨fun hEntries entry hEntry => ?_, fun hEntries _ => hEntries⟩
  exact hEntries (List.ne_nil_of_mem hEntry) entry hEntry

/-
  A rule is two levels below the root, so its own levels count
  against a limit that is lower by two.
-/
theorem depth_written_lt_iff
    {bound : Nat}
    (hBound : 2 < bound)
    (document : Document) :
    document.written.depth < bound ↔
      (∀ members ∈ document.patterns,
          (Json.Value.object members).depth < bound - 2) ∧
        (∀ entry ∈ document.repository,
          (Json.Value.object entry.2).depth < bound - 2) ∧
        ∀ field ∈ document.extra,
          field.2.depth < bound - 1 := by
  have hFirst : 1 < bound := Nat.lt_of_succ_lt hBound
  have hSecond : 1 < bound - 1 := Nat.lt_sub_of_add_lt hBound
  have hTexts :
      ∀ text, (Json.Value.string text).depth < bound - 1 :=
    fun _ => Nat.lt_of_succ_lt hSecond
  rw [written, Json.Value.depth_object_lt_iff,
    and_iff_right hFirst,
    forall_members_iff (fun value => value.depth < bound - 1)
      hTexts,
    patternsValue, repositoryValue,
    Json.Value.depth_array_lt_iff,
    Json.Value.depth_object_lt_iff, and_iff_right hSecond,
    and_iff_right hSecond, List.forall_mem_map,
    List.forall_mem_map, Nat.sub_sub]
  refine and_congr_right fun _ => and_congr_left fun _ => ?_
  refine
    ⟨fun hEntries entry hEntry => ?_, fun hEntries _ => hEntries⟩
  exact hEntries (List.ne_nil_of_mem hEntry) entry hEntry

/- No extra field has the key of a field that is modelled. -/
def KeepsApart
    (document : Document) : Prop :=
  ∀ key ∈ document.extra.keys, key ∉ modelledKeys

instance : DecidablePred KeepsApart := fun document =>
  inferInstanceAs
    (Decidable (∀ key ∈ document.extra.keys, key ∉ modelledKeys))

/-
  A document is within the limit just if the value that it is
  written as is, but for root fields that share a key.
-/
theorem within_iff
    {form : Json.Number → Prop}
    (document : Document) :
    document.Within form ↔
      document.Tidy ∧ document.KeepsApart ∧
        (∀ number ∈ document.written.numbers, form number) ∧
        document.written.depth < Json.depthLimit := by
  have hRule : 0 < Json.depthLimit - 2 := by decide
  have hField : 0 < Json.depthLimit - 1 := by decide
  rw [forall_numbers_written_iff,
    depth_written_lt_iff (by decide)]
  constructor
  · rintro ⟨hEntries, hPatterns, hExtra, hKeys, hApart⟩
    simp only [Json.Value.within_iff hRule,
      Json.Value.within_iff hField, forall_and]
      at hEntries hPatterns hExtra
    exact
      ⟨⟨hEntries.1, hPatterns.1, .object hKeys hExtra.1⟩,
        hApart,
        ⟨hPatterns.2.1, hEntries.2.1, hExtra.2.1⟩,
        hPatterns.2.2, hEntries.2.2, hExtra.2.2⟩
  · rintro ⟨hTidy, hApart, hNumbers, hDepth⟩
    refine
      { entries := fun entry hEntry => ?_
        patterns := fun members hMembers => ?_
        extra := fun field hField' => ?_
        keys := hTidy.extra.keys
        unmodelled := hApart }
    · rw [Json.Value.within_iff hRule]
      exact
        ⟨hTidy.entries entry hEntry, hNumbers.2.1 entry hEntry,
          hDepth.2.1 entry hEntry⟩
    · rw [Json.Value.within_iff hRule]
      exact
        ⟨hTidy.patterns members hMembers,
          hNumbers.1 members hMembers,
          hDepth.1 members hMembers⟩
    · rw [Json.Value.within_iff hField]
      exact
        ⟨hTidy.extra.members field hField',
          hNumbers.2.2 field hField', hDepth.2.2 field hField'⟩

------------------------------------------------------------
-- Reading Back
------------------------------------------------------------

/-
  A document with integers of 64 bits only is read back from
  its text as it is, with its entries and extra fields in order,
  just if it is tidy, no extra field has the key of a modelled
  one, and it is nested within the limit.
-/
theorem ofText_text_iff
    (document : Document)
    (hNumbers :
      ∀ number ∈ document.written.numbers, IsWord number)
    (supply : Json.Supply) :
    ofText supply document.text = .ok document ↔
      document.Tidy ∧ document.KeepsApart ∧
        document.written.depth < Json.depthLimit := by
  constructor
  · intro hRead
    have hWithin := within_of_ofText hRead
    rw [within_iff] at hWithin
    exact ⟨hWithin.1, hWithin.2.1, hWithin.2.2.2⟩
  · rintro ⟨hTidy, hApart, hDepth⟩
    have hWithin : document.Within IsWord := by
      rw [within_iff]
      exact ⟨hTidy, hApart, hNumbers, hDepth⟩
    exact ofText_text hWithin supply

/-
  A document with two entries of one name, rules with values of
  other types than their fields have, the least and the greatest
  integer, and empty objects and arrays among the values.
-/
def mixedDocument : Document where
  name := "a\"b\x01"
  scopeName := "é"
  injectionSelector := none
  patterns :=
    [[], [("match", .number (.integer (-9223372036854775808))),
      ("captures", .array [.null, .object [], .array []])]]
  repository :=
    [("a", [("name", .bool true)]), ("b", []),
      ("a", [("name", .number (.integer 18446744073709551615))])]
  extra :=
    [("uuid", .null),
      ("", .object [("name", .array [.bool false])])]

/- It is read back with both entries. -/
theorem ofText_text_mixedDocument :
    (∀ number ∈ mixedDocument.written.numbers, IsWord number) ∧
      mixedDocument.KeepsApart ∧
      mixedDocument.repository.map Prod.fst = ["a", "b", "a"] ∧
      ofText .memory mixedDocument.text = .ok mixedDocument := by
  have hNumbers :
      ∀ number ∈ mixedDocument.written.numbers,
        IsWord number := by
    decide
  have hApart : mixedDocument.KeepsApart := by
    decide
  have hRead :=
    (ofText_text_iff mixedDocument hNumbers .memory).mpr
      ⟨by decide, hApart, by decide⟩
  exact ⟨hNumbers, hApart, rfl, hRead⟩

end Document

end TextMate
