import Mathlib.Data.List.Induction
import TextMate.Proofs.Document.ReadBack
import TextMate.Proofs.Document.ReadWithin
import TextMate.Proofs.Json.Depth
import TextMate.Proofs.Rule.Object
import TextMate.Proofs.Rule.Visit

/-
  This file proves which grammars are read back from the text
  that they are written as: those whose rules are nested within
  the limit, and of whose extra fields none has the key of a
  field that is modelled.

  An extra field with such a key is written as a second member
  with the key of the first.  The text is then refused, or the
  member is read as the field that is modelled.

  Main declarations:
    * `Grammar.IsNested`
    * `Rule.within_toObject`
    * `Grammar.mem_keys_extraObject_iff`
    * `Grammar.within_toDocument`
    * `ofText_toDocument_iff`
-/

namespace TextMate

open Json.Number (IsWord)

------------------------------------------------------------
-- Rules
------------------------------------------------------------

/-
  A rule that is keyed is written without double keys, so that
  it is within each limit that its depth is below.
-/
theorem Rule.within_toObject
    {numbers : Json.Number → Prop}
    {rule : Rule}
    (hKeyed : rule.Keyed)
    {bound : Nat}
    (hDepth : (Json.Value.object rule.toObject).depth < bound) :
    (Json.Value.object rule.toObject).Within numbers bound := by
  induction rule using Rule.induction generalizing bound with
  | step rule ih =>
      rcases (Json.Value.depth_object_lt_iff _).mp hDepth with
        ⟨hBound, hMembers⟩
      refine .object hBound rule.nodup_keys_toObject ?_
      intro member hMember
      have hInside := hMembers member hMember
      rcases (rule.mem_toObject_iff member).mp hMember with
        ⟨field, value, hValue, rfl⟩
      have hRules :
          ∀ inner ∈ value.rules, ∀ {bound : Nat},
            (Json.Value.object inner.toObject).depth < bound →
              (Json.Value.object inner.toObject).Within numbers
                bound :=
        fun inner hInner =>
          ih field value hValue inner hInner
            (hKeyed.nested hValue hInner)
      cases value with
      | pattern pattern => exact .string _
      | label label => exact .string _
      | captures entries =>
          rcases (Json.Value.depth_object_lt_iff _).mp hInside
            with ⟨hLevel, hEntries⟩
          refine
            .object hLevel
              (Rule.nodup_keys_groupMembers
                (hKeyed.own hValue)) ?_
          rw [List.forall_mem_map] at hEntries ⊢
          intro entry hEntry
          exact
            hRules entry.2 (List.mem_map_of_mem hEntry)
              (hEntries entry hEntry)
      | children rules =>
          rcases (Json.Value.depth_array_lt_iff _).mp hInside
            with ⟨hLevel, hItems⟩
          refine .array hLevel ?_
          rw [List.forall_mem_map] at hItems ⊢
          intro inner hInner
          exact hRules inner hInner (hItems inner hInner)

------------------------------------------------------------
-- Extra Fields
------------------------------------------------------------

/- An extra field takes one level at most. -/
theorem ExtraValue.within_toValue
    {numbers : Json.Number → Prop}
    {bound : Nat}
    (hBound : 1 < bound)
    (value : ExtraValue) :
    value.toValue.Within numbers bound := by
  cases value with
  | text text => exact .string text
  | list texts =>
      refine .array hBound ?_
      rw [List.forall_mem_map]
      exact fun text _ => .string text

namespace Grammar

/- The members for extra fields are built one by one. -/
theorem extraObject_append
    (extra : List (String × ExtraValue))
    (field : String × ExtraValue) :
    extraObject (extra ++ [field]) =
      Json.Object.insert field.1 field.2.toValue
        (extraObject extra) := by
  unfold extraObject
  rw [List.foldl_append]
  rfl

/- No key is written twice among the extra fields. -/
theorem nodup_keys_extraObject
    (extra : List (String × ExtraValue)) :
    (extraObject extra).keys.Nodup := by
  induction extra using List.reverseRecOn with
  | nil => exact List.nodup_nil
  | append_singleton extra field ih =>
      rw [extraObject_append]
      exact Json.Object.nodup_keys_insert _ _ ih

/- Each key of an extra field is written, and no other. -/
theorem mem_keys_extraObject_iff
    (extra : List (String × ExtraValue))
    (key : String) :
    key ∈ (extraObject extra).keys ↔
      ∃ field ∈ extra, field.1 = key := by
  induction extra using List.reverseRecOn with
  | nil => simp [extraObject, Json.Object.keys]
  | append_singleton extra field ih =>
      rw [extraObject_append, Json.Object.mem_keys_insert_iff,
        ih]
      simp only [List.mem_append, List.mem_singleton, or_and_right,
        exists_or, exists_eq_left]
      rw [or_comm, eq_comm]

/- Each member is written for one of the extra fields. -/
theorem exists_extra_of_mem_extraObject
    {extra : List (String × ExtraValue)}
    {member : String × Json.Value}
    (hMember : member ∈ extraObject extra) :
    ∃ field ∈ extra, member = (field.1, field.2.toValue) := by
  induction extra using List.reverseRecOn with
  | nil => cases hMember
  | append_singleton extra field ih =>
      rw [extraObject_append] at hMember
      rcases Json.Object.mem_insert hMember with rfl | hOld
      · exact
          ⟨field,
            List.mem_append_right _ (List.mem_singleton_self _),
            rfl⟩
      · rcases ih hOld with ⟨other, hOther, hSame⟩
        exact ⟨other, List.mem_append_left _ hOther, hSame⟩

------------------------------------------------------------
-- Grammars
------------------------------------------------------------

/-
  The rules of a grammar, as they are written two levels below
  the root, stay within the limit on nesting.
-/
structure IsNested
    (grammar : Grammar) : Prop where
  entries :
    ∀ entry ∈ grammar.repository.entries,
      (Json.Value.object entry.2.toObject).depth + 2 <
        Json.depthLimit
  patterns :
    ∀ rule ∈ grammar.patterns,
      (Json.Value.object rule.toObject).depth + 2 <
        Json.depthLimit

/- No extra field has the key of a field that is modelled. -/
def KeepsApart
    (grammar : Grammar) : Prop :=
  ∀ field ∈ grammar.extra, field.1 ∉ Document.modelledKeys

instance : DecidablePred KeepsApart := fun grammar =>
  inferInstanceAs
    (Decidable
      (∀ field ∈ grammar.extra,
        field.1 ∉ Document.modelledKeys))

/- Such a grammar is written as a document that can be read. -/
theorem within_toDocument
    {grammar : Grammar}
    (hKeyed : grammar.Every fun _ value => value.Keyed)
    (hNested : grammar.IsNested)
    (hApart : grammar.KeepsApart) :
    grammar.toDocument.Within IsWord := by
  constructor
  · intro entry hEntry
    rcases List.mem_map.mp hEntry with ⟨old, hOld, rfl⟩
    exact
      Rule.within_toObject (hKeyed.1 old hOld)
        (Nat.lt_sub_of_add_lt (hNested.entries old hOld))
  · intro members hMembers
    rcases List.mem_map.mp hMembers with ⟨rule, hRule, rfl⟩
    exact
      Rule.within_toObject (hKeyed.2 rule hRule)
        (Nat.lt_sub_of_add_lt (hNested.patterns rule hRule))
  · intro member hMember
    rcases exists_extra_of_mem_extraObject hMember with
      ⟨field, -, rfl⟩
    exact field.2.within_toValue (by decide)
  · exact nodup_keys_extraObject grammar.extra
  · intro key hKey
    rcases (mem_keys_extraObject_iff _ _).mp hKey with
      ⟨field, hField, rfl⟩
    exact hApart field hField

/- A document that can be read is that of such a grammar. -/
theorem isNested_of_within
    {grammar : Grammar}
    {numbers : Json.Number → Prop}
    (hWithin : grammar.toDocument.Within numbers) :
    grammar.IsNested ∧ grammar.KeepsApart := by
  have hLimit : 0 < Json.depthLimit - 2 := by decide
  refine ⟨⟨?_, ?_⟩, ?_⟩
  · intro entry hEntry
    have hRule :=
      hWithin.entries (entry.1, entry.2.toObject)
        (List.mem_map_of_mem hEntry)
    exact Nat.add_lt_of_lt_sub (hRule.depth_lt hLimit)
  · intro rule hRule
    have hRule :=
      hWithin.patterns rule.toObject (List.mem_map_of_mem hRule)
    exact Nat.add_lt_of_lt_sub (hRule.depth_lt hLimit)
  · intro field hField
    apply hWithin.unmodelled
    exact
      (mem_keys_extraObject_iff _ _).mpr ⟨field, hField, rfl⟩

end Grammar

------------------------------------------------------------
-- Equality
------------------------------------------------------------

/-
  A document with an extra field that has the key of a modelled
  one is equal to none that is read.
-/
theorem Grammar.not_same_toDocument
    {grammar : Grammar}
    (hShared : ¬grammar.KeepsApart)
    {supply : Json.Supply}
    {text : String}
    {document : Document}
    (hRead : Document.ofText supply text = .ok document) :
    document.same grammar.toDocument = false := by
  have hWithin := Document.within_of_ofText hRead
  rw [← Bool.not_eq_true]
  intro hSame
  have hExtra :
      document.extra.same grammar.toDocument.extra = true := by
    unfold Document.same at hSame
    exact (Bool.and_eq_true _ _ ▸ hSame).2
  apply hShared
  intro field hField
  apply hWithin.unmodelled
  apply Json.Object.mem_keys_of_same hWithin.keys _ hExtra
  · exact
      (Grammar.mem_keys_extraObject_iff _ _).mpr
        ⟨field, hField, rfl⟩
  · exact Grammar.nodup_keys_extraObject grammar.extra

------------------------------------------------------------
-- Reading Back
------------------------------------------------------------

/-
  A grammar is read back from its text just if its rules are
  nested within the limit, and none of its extra fields has the
  key of a field that is modelled.  With such an extra field
  the text is refused or read as another document.
-/
theorem ofText_toDocument_iff
    (grammar : Grammar)
    (hKeyed : grammar.Every fun _ value => value.Keyed)
    (supply : Json.Supply) :
    let document := grammar.toDocument
    (Document.ofText supply document.text = .ok document ↔
      grammar.IsNested ∧ grammar.KeepsApart) ∧
      (¬grammar.KeepsApart →
        ∀ other,
          Document.ofText supply document.text = .ok other →
            other.same document = false) := by
  intro document
  refine ⟨⟨?_, ?_⟩, ?_⟩
  · intro hRead
    exact
      Grammar.isNested_of_within
        (Document.within_of_ofText hRead)
  · rintro ⟨hNested, hApart⟩
    exact
      Document.ofText_text
        (Grammar.within_toDocument hKeyed hNested hApart) supply
  · intro hShared other hRead
    exact Grammar.not_same_toDocument hShared hRead

/-
  A grammar with texts that have to be escaped, a rule in a
  group, and two extra fields of one name.
-/
def escapedGrammar : Grammar where
  name := "a\"b"
  scopeName := "source.\\\n"
  injectionSelector := some ""
  patterns :=
    [{ Rule.empty with
        matchPattern := some (.verbatim "(\\w)\t")
        captures :=
          some [(4294967295, { Rule.empty with name := some "" })] }]
  repository := ⟨[("", { Rule.empty with patterns := some [] })]⟩
  extra :=
    [("uuid", .text "\x01"), ("", .list ["é", "\x7f"]),
      ("uuid", .text "last")]

/- Its text is read back. -/
theorem ofText_toDocument_escapedGrammar :
    let document := escapedGrammar.toDocument
    (escapedGrammar.Every fun _ value => value.Keyed) ∧
      document.extra.keys = ["uuid", ""] ∧
      Document.ofText .memory document.text = .ok document := by
  intro document
  have hKeyed :
      escapedGrammar.Every fun _ value => value.Keyed := by
    decide
  have hNested : escapedGrammar.IsNested := by
    constructor <;> decide
  have hApart : escapedGrammar.KeepsApart := by
    decide
  have hRead :=
    (ofText_toDocument_iff escapedGrammar hKeyed .memory).1.mpr
      ⟨hNested, hApart⟩
  exact ⟨hKeyed, by decide, hRead⟩

/- A grammar with an extra field under the key of its name. -/
def renamedGrammar : Grammar :=
  { Grammar.empty with
    name := "first"
    scopeName := "source"
    extra := [("name", .text "second")] }

-- The reader takes a step for each character of the text.
set_option maxRecDepth 10000 in
/- It is valid, and its text is refused. -/
theorem ofText_renamedGrammar :
    let document := renamedGrammar.toDocument
    renamedGrammar.validate = .ok () ∧
      (renamedGrammar.Every fun _ value => value.Keyed) ∧
      renamedGrammar.IsNested ∧
      Document.ofText .memory document.text =
        .error ⟨.duplicateField "name", ⟨5, 7⟩⟩ := by
  intro document
  have hText :
      document.text =
        "\x7b\n\t\"name\": \"first\",\n\t\"scopeName\": " ++
          "\"source\",\n\t\"patterns\": [],\n\t\"name\": " ++
          "\"second\"\n\x7d" := by
    decide +kernel
  refine ⟨rfl, by decide, ?_, ?_⟩
  · constructor <;> decide
  · rw [hText]
    with_unfolding_all rfl

end TextMate
