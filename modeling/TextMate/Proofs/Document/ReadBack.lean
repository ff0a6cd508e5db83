import TextMate.Proofs.Document.ReadRules

/-
  This file proves that a document is read back from its text.

  The members of the root are read one by one.  Each adds its
  field to the parts that were read before, so what a list of
  members comes to is a chain of parts.

  Main declarations:
    * `Document.ReadsField`
    * `Document.PartsRead`
    * `Document.ofText_text`
-/

namespace TextMate

namespace Document

open Json (Rest Reads AreBlank EndsNumber broad broadFields)

------------------------------------------------------------
-- One Member
------------------------------------------------------------

/-
  The value under a key adds a field to the parts, wherever
  the text that is left came from.
-/
def ReadsField
    (depth : Nat)
    (parts : Parts)
    (key : String)
    (start : List Char)
    (after : Parts)
    (next : List Char) : Prop :=
  ∀ (text : List Char) (hStart : start.length < text.length),
    ∃ hNext,
      readField depth parts key (⟨start, hStart⟩ : Rest text) =
        .ok (after, ⟨next, hNext⟩)

/- A value is read behind the colon. -/
theorem readMember_colon
    {α : Type}
    {read :
      (text : List Char) → Except Json.Fault (α × Rest text)}
    {start next : List Char}
    {value : α}
    (hValue : Reads read start value next)
    (text : List Char)
    (hStart : (':' :: start).length < text.length) :
    ∃ hNext,
      readMember read (⟨':' :: start, hStart⟩ : Rest text) =
        .ok (value, ⟨next, hNext⟩) := by
  rcases Json.readColon_colon start with ⟨hColon, hReadColon⟩
  rcases hValue with ⟨hNext, hRead⟩
  refine ⟨by rw [List.length_cons] at hStart; omega, ?_⟩
  simp only [readMember, hReadColon, hRead]

section Fields

variable {depth : Nat}
variable {parts : Parts}
variable {start next : List Char}

theorem readsField_name
    (hNew : parts.name = none)
    {value : String}
    (hValue : Reads Json.readText start value next) :
    ReadsField depth parts "name" (':' :: start)
      { parts with name := some value } next := by
  intro text hStart
  rcases readMember_colon hValue text hStart with
    ⟨hNext, hRead⟩
  refine ⟨hNext, ?_⟩
  simp only [readField, if_true, readNewMember, hNew,
    Option.isSome_none, Bool.false_eq_true, if_false, hRead]
  rfl

theorem readsField_scopeName
    (hNew : parts.scopeName = none)
    {value : String}
    (hValue : Reads Json.readText start value next) :
    ReadsField depth parts "scopeName" (':' :: start)
      { parts with scopeName := some value } next := by
  intro text hStart
  rcases readMember_colon hValue text hStart with
    ⟨hNext, hRead⟩
  refine ⟨hNext, ?_⟩
  have hName : ¬"scopeName" = "name" := by decide
  simp only [readField, hName, if_true, readNewMember, hNew,
    Option.isSome_none, Bool.false_eq_true, if_false, hRead]
  rfl

theorem readsField_injectionSelector
    (hNew : parts.injectionSelector = none)
    {value : Option String}
    (hValue : Reads Json.readOptionalText start value next) :
    ReadsField depth parts "injectionSelector" (':' :: start)
      { parts with injectionSelector := some value } next := by
  intro text hStart
  rcases readMember_colon hValue text hStart with
    ⟨hNext, hRead⟩
  refine ⟨hNext, ?_⟩
  have hName : ¬"injectionSelector" = "name" := by decide
  have hScopeName : ¬"injectionSelector" = "scopeName" := by
    decide
  simp only [readField, hName, hScopeName, if_true,
    readNewMember, hNew, Option.isSome_none,
    Bool.false_eq_true, if_false, hRead]
  rfl

theorem readsField_patterns
    (hNew : parts.patterns = none)
    {value : List Json.Object}
    (hValue : Reads (readPatterns depth) start value next) :
    ReadsField depth parts "patterns" (':' :: start)
      { parts with patterns := some value } next := by
  intro text hStart
  rcases readMember_colon hValue text hStart with
    ⟨hNext, hRead⟩
  refine ⟨hNext, ?_⟩
  have hName : ¬"patterns" = "name" := by decide
  have hScopeName : ¬"patterns" = "scopeName" := by decide
  have hSelector : ¬"patterns" = "injectionSelector" := by
    decide
  simp only [readField, hName, hScopeName, hSelector, if_true,
    readNewMember, hNew, Option.isSome_none,
    Bool.false_eq_true, if_false, hRead]
  rfl

theorem readsField_repository
    (hNew : parts.repository = none)
    {value : List (String × Json.Object)}
    (hValue : Reads (readRepository depth) start value next) :
    ReadsField depth parts "repository" (':' :: start)
      { parts with repository := some value } next := by
  intro text hStart
  rcases readMember_colon hValue text hStart with
    ⟨hNext, hRead⟩
  refine ⟨hNext, ?_⟩
  have hName : ¬"repository" = "name" := by decide
  have hScopeName : ¬"repository" = "scopeName" := by decide
  have hSelector : ¬"repository" = "injectionSelector" := by
    decide
  have hPatterns : ¬"repository" = "patterns" := by decide
  simp only [readField, hName, hScopeName, hSelector,
    hPatterns, if_true, readNewMember, hNew,
    Option.isSome_none, Bool.false_eq_true, if_false, hRead]
  rfl

/- A key that is not modelled adds to the other fields. -/
theorem readsField_extra
    {key : String}
    (hKey : key ∉ modelledKeys)
    {value : Json.Value}
    (hValue : Reads (Json.readValue depth) start value next) :
    ReadsField depth parts key (':' :: start)
      { parts with
        extra := Json.Object.insert key value parts.extra }
      next := by
  intro text hStart
  rcases readMember_colon hValue text hStart with
    ⟨hNext, hRead⟩
  refine ⟨hNext, ?_⟩
  simp only [modelledKeys, List.mem_cons, List.not_mem_nil,
    or_false, not_or] at hKey
  rcases hKey with
    ⟨hName, hScopeName, hSelector, hPatterns, hRepository⟩
  simp only [readField, hName, hScopeName, hSelector,
    hPatterns, hRepository, if_false, hRead]
  rfl

end Fields

------------------------------------------------------------
-- All Members
------------------------------------------------------------

/-
  A member adds its field to the parts when it is read from
  its broad form, at any level.
-/
def FieldRead
    (depth : Nat)
    (parts : Parts)
    (member : String × Json.Value)
    (after : Parts) : Prop :=
  ∀ level rest, EndsNumber rest →
    ReadsField depth parts member.1
      (':' :: ' ' :: (broad member.2 level ++ rest)) after rest

/- Members add their fields to the parts one by one. -/
inductive PartsRead
    (depth : Nat) : Parts → Json.Object → Parts → Prop where
  | nil
      {parts : Parts} :
      PartsRead depth parts [] parts
  | cons
      {parts between after : Parts}
      {member : String × Json.Value}
      {members : Json.Object}
      (hMember : FieldRead depth parts member between)
      (hMembers : PartsRead depth between members after) :
      PartsRead depth parts (member :: members) after

/- More members add to what the first ones came to. -/
theorem PartsRead.append
    {depth : Nat}
    {parts between after : Parts}
    {members others : Json.Object}
    (hMembers : PartsRead depth parts members between)
    (hOthers : PartsRead depth between others after) :
    PartsRead depth parts (members ++ others) after := by
  induction hMembers with
  | nil => exact hOthers
  | cons hMember hMembers ih => exact .cons hMember (ih hOthers)

/- The root is read to its end. -/
theorem readFields_close
    {blanks : List Char}
    (hBlanks : AreBlank blanks)
    (depth : Nat)
    (first : Bool)
    (parts : Parts)
    (rest : List Char) :
    Reads (readFields depth first parts)
      (blanks ++ '}' :: rest) parts rest := by
  rcases Json.nextKey_close hBlanks first rest with
    ⟨hRest, hNext⟩
  refine ⟨hRest, ?_⟩
  rw [readFields, hNext]

/- A field is read, and then those behind it. -/
theorem readFields_field
    {depth : Nat}
    {first : Bool}
    {parts between after : Parts}
    {text start next rest : List Char}
    {key : String}
    (hNext :
      ∃ hStart,
        Json.nextKey first text =
          .ok (.key key ⟨start, hStart⟩))
    (hField : ReadsField depth parts key start between next)
    (hFields :
      Reads (readFields depth false between) next after rest) :
    Reads (readFields depth first parts) text after rest := by
  rcases hNext with ⟨hStart, hNext⟩
  rcases hField text hStart with ⟨hShorter, hField⟩
  rcases hFields with ⟨hRest, hFields⟩
  refine ⟨by omega, ?_⟩
  rw [readFields, hNext]
  simp only [hField, hFields]

/- The further members of the root are read. -/
theorem PartsRead.readFields
    {depth : Nat}
    {parts after : Parts}
    {members : Json.Object}
    (hMembers : PartsRead depth parts members after)
    (level : Nat)
    (rest : List Char) :
    Reads (readFields depth false parts)
      (broadFields members level ++ rest) after rest := by
  induction hMembers with
  | nil =>
      rw [broadFields, List.append_assoc, List.singleton_append]
      exact
        readFields_close (Json.areBlank_newLine level) depth
          false _ rest
  | @cons parts between after member members hMember _ ih =>
      rcases member with ⟨key, value⟩
      have hField :=
        hMember (level + 1) (broadFields members level ++ rest)
          (Json.endsNumber_broadFields members level rest)
      rw [broadFields, List.cons_append, List.append_assoc,
        List.append_assoc, List.append_assoc]
      exact
        readFields_field
          (Json.nextKey_comma (Json.areBlank_newLine _) key _)
          hField ih

/- All the members of the root are read. -/
theorem PartsRead.readFields_first
    {depth : Nat}
    {parts after : Parts}
    {member : String × Json.Value}
    {members : Json.Object}
    (hMembers : PartsRead depth parts (member :: members) after)
    (level : Nat)
    (rest : List Char) :
    ∃ text,
      broad (.object (member :: members)) level = '{' :: text ∧
        Reads (Document.readFields depth true parts)
          (text ++ rest) after rest := by
  rcases member with ⟨key, value⟩
  cases hMembers with
  | cons hMember hMembers =>
      refine ⟨_, rfl, ?_⟩
      have hField :=
        hMember (level + 1) (broadFields members level ++ rest)
          (Json.endsNumber_broadFields members level rest)
      rw [List.append_assoc, List.append_assoc,
        List.append_assoc]
      exact
        readFields_field
          (Json.nextKey_first (Json.areBlank_newLine _) key _)
          hField (hMembers.readFields level rest)

------------------------------------------------------------
-- Members of a Document
------------------------------------------------------------

section Parts

variable {depth : Nat}
variable {parts : Parts}

theorem partsRead_name
    (hNew : parts.name = none)
    (value : String) :
    PartsRead depth parts [("name", .string value)]
      { parts with name := some value } :=
  .cons
    (fun _ rest _ =>
      readsField_name hNew
        (readText_printString Json.areBlank_space value rest))
    .nil

theorem partsRead_scopeName
    (hNew : parts.scopeName = none)
    (value : String) :
    PartsRead depth parts [("scopeName", .string value)]
      { parts with scopeName := some value } :=
  .cons
    (fun _ rest _ =>
      readsField_scopeName hNew
        (readText_printString Json.areBlank_space value rest))
    .nil

/- A selector that is absent is not read at all. -/
theorem partsRead_selectorMember
    (hNew : parts.injectionSelector = none)
    (document : Document) :
    PartsRead depth parts document.selectorMember
      { parts with
        injectionSelector :=
          document.injectionSelector.map some } := by
  rw [selectorMember]
  cases document.injectionSelector with
  | none =>
      rw [Option.map_none, ← hNew]
      exact .nil
  | some value =>
      exact
        .cons
          (fun _ rest _ =>
            readsField_injectionSelector hNew
              (readOptionalText_printString
                Json.areBlank_space value rest))
          .nil

theorem partsRead_patterns
    (hDepth : 1 < depth)
    (hNew : parts.patterns = none)
    {rules : List Json.Object}
    (hRules :
      ∀ rule ∈ rules,
        (Json.Value.object rule).Within Json.Number.IsWord
          (depth - 1)) :
    PartsRead depth parts
      [("patterns", .array (rules.map Json.Value.object))]
      { parts with patterns := some rules } :=
  .cons
    (fun level rest _ =>
      readsField_patterns hNew
        (readPatterns_broad hDepth hRules Json.areBlank_space
          level rest))
    .nil

/- A repository without entries is not read at all. -/
theorem partsRead_repositoryMember
    (hDepth : 1 < depth)
    (hNew : parts.repository = none)
    {document : Document}
    (hEntries :
      ∀ entry ∈ document.repository,
        (Json.Value.object entry.2).Within Json.Number.IsWord
          (depth - 1)) :
    ∃ repository : Option (List (String × Json.Object)),
      repository.getD [] = document.repository ∧
        PartsRead depth parts document.repositoryMember
          { parts with repository := repository } := by
  rw [repositoryMember]
  by_cases hEmpty : document.repository.isEmpty
  · refine ⟨none, ?_, ?_⟩
    · exact (List.isEmpty_iff.mp hEmpty).symm
    · rw [if_pos hEmpty, ← hNew]
      exact .nil
  · refine ⟨some document.repository, rfl, ?_⟩
    rw [if_neg hEmpty]
    exact
      .cons
        (fun level rest _ =>
          readsField_repository hNew
            (readRepository_broad hDepth hEntries
              Json.areBlank_space level rest))
        .nil

/- The other fields are added behind those there are. -/
theorem partsRead_extra
    {members : Json.Object}
    (hMembers :
      ∀ member ∈ members,
        member.2.Within Json.Number.IsWord depth)
    (hKeys : (parts.extra.keys ++ members.keys).Nodup)
    (hUnmodelled : ∀ key ∈ members.keys, key ∉ modelledKeys) :
    PartsRead depth parts members
      { parts with extra := parts.extra ++ members } := by
  induction members generalizing parts with
  | nil =>
      rw [List.append_nil]
      exact .nil
  | cons member members ih =>
      rcases member with ⟨key, value⟩
      have hNew : key ∉ parts.extra.keys := fun hOld =>
        (List.nodup_append.mp hKeys).2.2 _ hOld _
          List.mem_cons_self rfl
      have hInsert :
          Json.Object.insert key value parts.extra =
            parts.extra ++ [(key, value)] :=
        Json.Object.insert_of_not_mem hNew value
      have hField :
          FieldRead depth parts (key, value)
            { parts with
              extra := parts.extra ++ [(key, value)] } := by
        intro level rest hEnd
        rw [← hInsert]
        exact
          readsField_extra
            (hUnmodelled key List.mem_cons_self)
            ((Json.isRead_of_within
                (hMembers _ List.mem_cons_self) level).2
              [' '] rest Json.areBlank_space hEnd)
      have hDistinct :
          (Json.Object.keys (parts.extra ++ [(key, value)]) ++
            Json.Object.keys members).Nodup := by
        rw [Json.Object.keys, List.map_append,
          List.append_assoc]
        exact hKeys
      have hOthers :=
        @ih
          { parts with extra := parts.extra ++ [(key, value)] }
          (fun other hOther =>
            hMembers other (List.mem_cons_of_mem _ hOther))
          hDistinct
          (fun other hOther =>
            hUnmodelled other (List.mem_cons_of_mem _ hOther))
      rw [List.append_assoc, List.singleton_append] at hOthers
      exact .cons hField hOthers

end Parts

/- The members of a document come to its fields. -/
theorem partsRead_members
    {document : Document}
    (hWithin : document.Within Json.Number.IsWord) :
    ∃ parts,
      PartsRead (Json.depthLimit - 1) .empty document.members
          parts ∧
        parts.document? = .ok document := by
  have hDepth : 1 < Json.depthLimit - 1 := by decide
  have hKeys :
      (Json.Object.keys [] ++ document.extra.keys).Nodup :=
    hWithin.keys
  rcases @partsRead_repositoryMember (Json.depthLimit - 1)
      ⟨some document.name, some document.scopeName,
        document.injectionSelector.map some,
        some document.patterns, none, []⟩
      hDepth rfl document hWithin.entries with
    ⟨repository, hRepository, hEntries⟩
  refine
    ⟨⟨some document.name, some document.scopeName,
      document.injectionSelector.map some,
      some document.patterns, repository,
      [] ++ document.extra⟩, ?_, ?_⟩
  · have hExtra :=
      @partsRead_extra (Json.depthLimit - 1)
        ⟨some document.name, some document.scopeName,
          document.injectionSelector.map some,
          some document.patterns, repository, []⟩
        document.extra hWithin.extra hKeys hWithin.unmodelled
    exact
      ((((partsRead_name rfl document.name).append
        (partsRead_scopeName rfl document.scopeName)).append
        (partsRead_selectorMember rfl document)).append
        (partsRead_patterns hDepth rfl
          hWithin.patterns)).append hEntries |>.append hExtra
  · rw [Parts.document?, hRepository]
    cases document with
    | mk name scopeName selector patterns repository extra =>
        cases selector <;> rfl

/- A document is read if the fields of its root are. -/
theorem read_of_fields
    {document : Document}
    {parts : Parts}
    {text rest : List Char}
    (hFields :
      Reads (readFields (Json.depthLimit - 1) true .empty) text
        parts rest)
    (hDocument : parts.document? = .ok document) :
    Reads read ('{' :: text) document rest := by
  rcases hFields with ⟨hRest, hRead⟩
  refine ⟨by rw [List.length_cons]; omega, ?_⟩
  rw [read, Json.skipBlanks_cons (by decide)]
  simp only [if_true, hRead, hDocument]
  rfl

/- A document is read back from its text. -/
theorem ofText_text
    {document : Document}
    (hWithin : document.Within Json.Number.IsWord)
    (supply : Json.Supply) :
    ofText supply document.text = .ok document := by
  rcases partsRead_members hWithin with
    ⟨parts, hParts, hDocument⟩
  rcases hParts.readFields_first 0 [] with ⟨text, hText, hRead⟩
  have hReads := read_of_fields hRead hDocument
  have hBroad : document.text.toList = '{' :: text := by
    rw [Document.text, Json.Object.broadText,
      String.toList_ofList]
    exact hText
  rw [List.append_nil, ← hBroad] at hReads
  rcases hReads with ⟨hRest, hReads⟩
  rw [ofText, Json.readWhole, hReads]
  rfl

end Document

end TextMate
