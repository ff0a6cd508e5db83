import TextMate.Proofs.Document.Within
import TextMate.Proofs.Json.ReadWithin

/-
  This file proves that a document that was read is within the
  limit on nesting, has no key twice in an object, and keeps
  the fields that are modelled out of the other ones.

  Reading a field preserves all of that for the fields that
  were read so far, and so reading the root does.

  Main declarations:
    * `Document.Parts.Within`
    * `Document.within_of_readField`
    * `Document.within_of_readFields`
    * `Document.within_of_ofText`
-/

namespace TextMate

namespace Document

open Json (Rest Fault)
open Json.Number (Any)

------------------------------------------------------------
-- Rules
------------------------------------------------------------

/- Rules that were read are within the depth. -/
theorem within_of_readRules
    {depth : Nat}
    {first : Bool}
    {text : List Char}
    {rules : List Json.Object}
    {rest : Rest text}
    (hRead : readRules depth first text = .ok (rules, rest)) :
    ∀ rule ∈ rules,
      (Json.Value.object rule).Within Any depth := by
  rw [readRules] at hRead
  split at hRead
  · cases hRead
  · cases hRead
    exact fun _ hNone => absurd hNone List.not_mem_nil
  · split at hRead
    · cases hRead
    · next rule next hNext hRule =>
        split at hRead
        · cases hRead
        · next rules last hLast hRules =>
            cases hRead
            intro other hOther
            rcases List.mem_cons.mp hOther with rfl | hOther
            · exact Json.within_of_readObject hRule
            · exact within_of_readRules hRules other hOther
termination_by text.length

theorem within_of_readPatterns
    {depth : Nat}
    {text : List Char}
    {rules : List Json.Object}
    {rest : Rest text}
    (hRead : readPatterns depth text = .ok (rules, rest)) :
    ∀ rule ∈ rules,
      (Json.Value.object rule).Within Any (depth - 1) := by
  rw [readPatterns] at hRead
  split at hRead
  · cases hRead
  · split at hRead
    · split at hRead
      · cases hRead
      · split at hRead
        · cases hRead
        · next hRules =>
            cases hRead
            exact within_of_readRules hRules
    · cases hRead

/- Entries that were read are within the depth. -/
theorem within_of_readEntries
    {depth : Nat}
    {first : Bool}
    {text : List Char}
    {entries : List (String × Json.Object)}
    {rest : Rest text}
    (hRead :
      readEntries depth first text = .ok (entries, rest)) :
    ∀ entry ∈ entries,
      (Json.Value.object entry.2).Within Any depth := by
  rw [readEntries] at hRead
  split at hRead
  · cases hRead
  · cases hRead
    exact fun _ hNone => absurd hNone List.not_mem_nil
  · split at hRead
    · cases hRead
    · split at hRead
      · cases hRead
      · next rule next hNext hRule =>
          split at hRead
          · cases hRead
          · next entries last hLast hEntries =>
              cases hRead
              intro other hOther
              rcases List.mem_cons.mp hOther with rfl | hOther
              · exact Json.within_of_readObject hRule
              · exact
                  within_of_readEntries hEntries other hOther
termination_by text.length

theorem within_of_readRepository
    {depth : Nat}
    {text : List Char}
    {entries : List (String × Json.Object)}
    {rest : Rest text}
    (hRead :
      readRepository depth text = .ok (entries, rest)) :
    ∀ entry ∈ entries,
      (Json.Value.object entry.2).Within Any (depth - 1) := by
  rw [readRepository] at hRead
  split at hRead
  · cases hRead
  · split at hRead
    · split at hRead
      · cases hRead
      · split at hRead
        · cases hRead
        · next hEntries =>
            cases hRead
            exact within_of_readEntries hEntries
    · cases hRead

------------------------------------------------------------
-- Fields of the Root
------------------------------------------------------------

/- The fields that were read so far are within the depth. -/
structure Parts.Within
    (depth : Nat)
    (parts : Parts) : Prop where
  patterns :
    ∀ rule ∈ parts.patterns.getD [],
      (Json.Value.object rule).Within Any (depth - 1)
  entries :
    ∀ entry ∈ parts.repository.getD [],
      (Json.Value.object entry.2).Within Any (depth - 1)
  extra :
    ∀ field ∈ parts.extra, field.2.Within Any depth
  keys : parts.extra.keys.Nodup
  unmodelled :
    ∀ key ∈ parts.extra.keys, key ∉ modelledKeys

/- What a member holds was read behind its colon. -/
theorem of_readMember
    {α : Type}
    {read :
      (text : List Char) → Except Fault (α × Rest text)}
    {text : List Char}
    {start rest : Rest text}
    {value : α}
    (hRead : readMember read start = .ok (value, rest)) :
    ∃ inner last, read inner = .ok (value, last) := by
  rw [readMember] at hRead
  split at hRead
  · cases hRead
  · split at hRead
    · cases hRead
    · next hValue =>
        cases hRead
        exact ⟨_, _, hValue⟩

/- What a new member holds was read behind its colon. -/
theorem of_readNewMember
    {α : Type}
    {name : String}
    {isPresent : Bool}
    {read :
      (text : List Char) → Except Fault (α × Rest text)}
    {text : List Char}
    {start rest : Rest text}
    {value : α}
    (hRead :
      readNewMember name isPresent read start =
        .ok (value, rest)) :
    ∃ inner last, read inner = .ok (value, last) := by
  rw [readNewMember] at hRead
  split at hRead
  · cases hRead
  · exact of_readMember hRead

/- The argument of a map that succeeds. -/
theorem ok_of_map
    {α β : Type}
    {change : α → β}
    {result : Except Fault α}
    {value : β}
    (hMap : result.map change = .ok value) :
    ∃ inner, result = .ok inner ∧ change inner = value := by
  cases result with
  | error fault => cases hMap
  | ok inner => exact ⟨inner, rfl, by cases hMap; rfl⟩

/- Reading a field keeps the parts within the depth. -/
theorem within_of_readField
    {depth : Nat}
    {parts after : Parts}
    {name : String}
    {text : List Char}
    {start rest : Rest text}
    (hRead :
      readField depth parts name start = .ok (after, rest))
    (hParts : parts.Within depth) :
    after.Within depth := by
  rw [readField] at hRead
  split at hRead
  · rcases ok_of_map hRead with ⟨read, -, hAfter⟩
    cases hAfter
    exact { hParts with }
  · next hName =>
    split at hRead
    · rcases ok_of_map hRead with ⟨read, -, hAfter⟩
      cases hAfter
      exact { hParts with }
    · next hScopeName =>
      split at hRead
      · rcases ok_of_map hRead with ⟨read, -, hAfter⟩
        cases hAfter
        exact { hParts with }
      · next hSelector =>
        split at hRead
        · rcases ok_of_map hRead with ⟨read, hRules, hAfter⟩
          cases hAfter
          rcases of_readNewMember hRules with
            ⟨inner, last, hRules⟩
          exact
            { hParts with
              patterns := within_of_readPatterns hRules }
        · next hPatterns =>
          split at hRead
          · rcases ok_of_map hRead with
              ⟨read, hEntries, hAfter⟩
            cases hAfter
            rcases of_readNewMember hEntries with
              ⟨inner, last, hEntries⟩
            exact
              { hParts with
                entries := within_of_readRepository hEntries }
          · next hRepository =>
            rcases ok_of_map hRead with ⟨read, hValue, hAfter⟩
            cases hAfter
            rcases of_readMember hValue with
              ⟨inner, last, hValue⟩
            refine
              { hParts with
                extra := ?_
                keys :=
                  Json.Object.nodup_keys_insert name read.1
                    hParts.keys
                unmodelled := ?_ }
            · intro field hField
              rcases Json.Object.mem_insert hField with
                rfl | hOld
              · exact Json.within_of_readValue hValue
              · exact hParts.extra field hOld
            · intro key hKey
              rcases Json.Object.mem_keys_insert hKey with
                rfl | hOld
              · simp only [modelledKeys, List.mem_cons,
                  List.not_mem_nil, or_false, not_or]
                exact
                  ⟨hName, hScopeName, hSelector, hPatterns,
                    hRepository⟩
              · exact hParts.unmodelled key hOld

/- Reading the root keeps the parts within the depth. -/
theorem within_of_readFields
    {depth : Nat}
    {first : Bool}
    {parts after : Parts}
    {text : List Char}
    {rest : Rest text}
    (hRead :
      readFields depth first parts text = .ok (after, rest))
    (hParts : parts.Within depth) :
    after.Within depth := by
  rw [readFields] at hRead
  split at hRead
  · cases hRead
  · cases hRead
    exact hParts
  · split at hRead
    · cases hRead
    · next between next hNext hField =>
        split at hRead
        · cases hRead
        · next after last hLast hFields =>
            cases hRead
            exact
              within_of_readFields hFields
                (within_of_readField hField hParts)
termination_by text.length

------------------------------------------------------------
-- Documents
------------------------------------------------------------

/- No field at all is within any depth. -/
theorem Parts.within_empty
    (depth : Nat) :
    Parts.empty.Within depth where
  patterns := nofun
  entries := nofun
  extra := nofun
  keys := List.nodup_nil
  unmodelled := nofun

/- The document for parts within the depth is within the limit. -/
theorem Parts.Within.document
    {parts : Parts}
    {document : Document}
    (hParts : parts.Within (Json.depthLimit - 1))
    (hDocument : parts.document? = .ok document) :
    document.Within Any := by
  rw [Parts.document?] at hDocument
  split at hDocument
  · cases hDocument
  · cases hDocument
  · cases hDocument
    exact
      { entries := hParts.entries
        patterns := hParts.patterns
        extra := hParts.extra
        keys := hParts.keys
        unmodelled := hParts.unmodelled }

theorem within_of_read
    {text : List Char}
    {document : Document}
    {rest : Rest text}
    (hRead : read text = .ok (document, rest)) :
    document.Within Any := by
  rw [read] at hRead
  split at hRead
  · cases hRead
  · split at hRead
    · split at hRead
      · cases hRead
      · next parts last hFields =>
          split at hRead
          · cases hRead
          · next document hDocument =>
              cases hRead
              exact
                (within_of_readFields hFields
                  (Parts.within_empty _)).document hDocument
    · cases hRead

/- A document that was read from a text is within the limit. -/
theorem within_of_ofText
    {supply : Json.Supply}
    {text : String}
    {document : Document}
    (hRead : ofText supply text = .ok document) :
    document.Within Any := by
  cases hResult : read text.toList with
  | error fault =>
      rw [ofText, Json.readWhole, hResult] at hRead
      cases hRead
  | ok result =>
      rcases result with ⟨other, rest⟩
      rw [ofText, Json.readWhole, hResult] at hRead
      cases hEnd : Json.checkEnd rest.val with
      | error fault =>
          simp only [hEnd, Except.map] at hRead
          cases hRead
      | ok last =>
          simp only [hEnd, Except.map] at hRead
          cases hRead
          exact within_of_read hResult

end Document

end TextMate
