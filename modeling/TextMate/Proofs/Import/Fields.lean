import TextMate.Proofs.Import.Shape

/-
  This file proves that the fields of a rule are imported
  independently of each other, up to the pairs of delimiters.

  Whether the value of a field is kept depends on the value
  alone.  The fields around it count in one case only: where a
  delimiter of the rule is lost, the fields that lost their pair
  are lost with it.  The order of the keys, keys that name no
  field and what is lost inside of other fields do not matter.

  Main declarations:
    * `Import.importsAlone`
    * `Import.ImportsField`
    * `LosesPair`
    * `Import.has_kept_walkRule_iff`
    * `importRule_fields`
-/

namespace TextMate

------------------------------------------------------------
-- Pairs
------------------------------------------------------------

/-
  A field goes with its pair, given the fields that are kept:
  what ends or continues a region goes without a begin, and a
  begin goes without both an end and a while.
-/
def LosesPair
    (kept : Field → Prop) : Field → Prop
  | .endPattern | .whilePattern | .endCaptures
  | .whileCaptures => ¬kept .beginPattern
  | .beginPattern | .beginCaptures =>
      kept .beginPattern ∧ ¬kept .endPattern ∧
        ¬kept .whilePattern
  | .includeTarget | .matchPattern | .name | .contentName
  | .captures | .patterns => False

instance
    (kept : Field → Prop)
    [DecidablePred kept] :
    DecidablePred (LosesPair kept) := by
  intro field
  cases field <;>
    · unfold LosesPair
      infer_instance

/- The unpaired fields of a rule are those that go. -/
theorem Rule.mem_unpaired_iff
    (rule : Rule)
    (field : Field) :
    field ∈ rule.unpaired ↔
      rule.has field ∧
        LosesPair (fun other => rule.has other) field := by
  unfold unpaired
  cases hBegin : rule.has .beginPattern with
  | false =>
      cases field <;> simp [LosesPair, hBegin]
  | true =>
      cases hEnd : rule.has .endPattern <;>
        cases hWhile : rule.has .whilePattern <;>
        cases field <;> simp [LosesPair, hBegin, hEnd, hWhile]

namespace Import

variable (check : Acceptance)

------------------------------------------------------------
-- Values on Their Own
------------------------------------------------------------

/-
  A value is imported for a field: a text for a label, an
  object for captures, an array for a list of rules, and for a
  pattern a text that is accepted, or that has backreferences
  and ends or continues a region.
-/
def importsAlone
    (field : Field)
    (value : Json.Value) : Bool :=
  match field.kind, value with
  | .label, .string _ => true
  | .pattern, .string text =>
      let pattern := Pattern.ofText text
      (check pattern.text).isNone ||
        (pattern.hasBackreferences &&
          (field = .endPattern || field = .whilePattern))
  | .captures, .object _ => true
  | .children, .array _ => true
  | _, _ => false

/- A rule has the key of a field, with a value that imports. -/
def ImportsField
    (members : Json.Object)
    (field : Field) : Prop :=
  ∃ member ∈ members,
    member.1 = field.key ∧ importsAlone check field member.2

instance
    (members : Json.Object) :
    DecidablePred (ImportsField check members) := by
  intro field
  unfold ImportsField
  infer_instance

/- The value of a field is kept just if it imports. -/
theorem isSome_kept_walkValue
    (field : Field)
    (value : Json.Value) :
    (walkValue check field value).kept.isSome =
      importsAlone check field value := by
  have hScalar : (walkScalar field).kept.isSome = false := by
    unfold walkScalar
    cases field.kind <;> rfl
  unfold importsAlone
  cases value with
  | null | bool _ | number _ =>
      rw [walkValue, hScalar]
      cases field.kind <;> rfl
  | string text =>
      rw [walkValue]
      unfold walkText
      cases hKind : field.kind with
      | pattern =>
          have hFree :
              ((Pattern.ofText text).hasBackreferences &&
                  (field = .endPattern ||
                    field = .whilePattern)) =
                !isJudged field (Pattern.ofText text) := by
            rw [isJudged, Bool.not_not, Bool.and_comm]
          simp only [Pattern.text_ofText, hFree]
          cases isJudged field (Pattern.ofText text) <;>
            cases check text <;> rfl
      | label | captures | children => rfl
  | array items =>
      rw [walkValue]
      cases hKind : field.kind with
      | children => rfl
      | pattern | label | captures => exact hScalar
  | object members =>
      rw [walkValue]
      cases hKind : field.kind with
      | captures => rfl
      | pattern | label | children => exact hScalar

------------------------------------------------------------
-- Fields of Rules
------------------------------------------------------------

variable {members : Json.Object}

/- A member alone has the key of a field. -/
theorem importsField_iff
    (hKeys : members.keys.Nodup)
    {field : Field}
    {value : Json.Value}
    (hMember : (field.key, value) ∈ members) :
    ImportsField check members field ↔
      importsAlone check field value := by
  constructor
  · rintro ⟨member, hOther, hKey, hImports⟩
    rcases eq_of_mem_of_key_eq hKeys hOther hMember hKey with rfl
    exact hImports
  · intro hImports
    exact ⟨_, hMember, rfl, hImports⟩

/- A delimiter is lost if its value does not import. -/
theorem losesDelimiter_walkMembers_iff
    (hKeys : members.keys.Nodup) :
    losesDelimiter (walkMembers check members).kept ↔
      ∃ field, field.isDelimiter ∧ HasMember members field ∧
        ¬ImportsField check members field := by
  unfold losesDelimiter
  rw [List.any_eq_true]
  constructor
  · rintro ⟨⟨field, kept⟩, hOutcome, hLost⟩
    rw [Bool.and_eq_true, Option.isNone_iff_eq_none] at hLost
    rcases hLost with ⟨rfl, hDelimiter⟩
    rcases (mem_kept_walkMembers_iff check).mp hOutcome with
      ⟨value, hMember, hNone⟩
    refine ⟨field, hDelimiter, List.mem_map_of_mem hMember, ?_⟩
    rw [importsField_iff check hKeys hMember,
      ← isSome_kept_walkValue, hNone]
    exact Bool.false_ne_true
  · rintro ⟨field, hDelimiter, hHas, hNot⟩
    rcases List.mem_map.mp hHas with ⟨⟨_, value⟩, hMember, rfl⟩
    rw [importsField_iff check hKeys hMember,
      ← isSome_kept_walkValue, Bool.not_eq_true,
      Option.isSome_eq_false_iff, Option.isNone_iff_eq_none]
      at hNot
    refine
      ⟨(field, none),
        (mem_kept_walkMembers_iff check).mpr
          ⟨value, hMember, hNot⟩, ?_⟩
    rw [hDelimiter]
    rfl

/- The fields that are set are those that import. -/
theorem has_assemble_walkMembers_iff
    (hKeys : members.keys.Nodup)
    (field : Field) :
    (assemble .empty (walkMembers check members).kept).has
        field ↔
      ImportsField check members field := by
  unfold Rule.has
  rw [Option.isSome_iff_exists]
  simp only [get?_assemble_walkMembers check hKeys]
  constructor
  · rintro ⟨kept, value, hMember, hKept⟩
    refine ⟨_, hMember, rfl, ?_⟩
    rw [← isSome_kept_walkValue, hKept]
    rfl
  · rintro ⟨⟨_, value⟩, hMember, rfl, hImports⟩
    rw [← isSome_kept_walkValue, Option.isSome_iff_exists]
      at hImports
    rcases hImports with ⟨kept, hKept⟩
    exact ⟨kept, value, hMember, hKept⟩

/-
  A rule has the fields that import, without those that lost
  their pair if a delimiter is lost.
-/
theorem has_kept_walkRule_iff
    (hKeys : members.keys.Nodup)
    (field : Field) :
    (walkRule check members).kept.has field ↔
      ImportsField check members field ∧
        ¬(losesDelimiter (walkMembers check members).kept ∧
          LosesPair (ImportsField check members) field) := by
  have hHas := has_assemble_walkMembers_iff check hKeys
  have hPair :
      lostPair (walkMembers check members).kept field ↔
        losesDelimiter (walkMembers check members).kept ∧
          ImportsField check members field ∧
            LosesPair (ImportsField check members) field := by
    simp only [lostPair, Bool.and_eq_true,
      List.contains_iff_mem, Rule.mem_unpaired_iff, hHas]
  rw [Rule.has, get?_kept_walkRule_eq]
  by_cases hLost :
      lostPair (walkMembers check members).kept field
  · rcases hPair.mp hLost with ⟨hLoses, -, hUnpaired⟩
    rw [if_pos hLost]
    exact
      iff_of_false Bool.false_ne_true
        fun hBoth => hBoth.2 ⟨hLoses, hUnpaired⟩
  · rw [if_neg hLost, ← Rule.has, hHas]
    refine (and_iff_left_of_imp ?_).symm
    rintro hImports ⟨hLoses, hUnpaired⟩
    exact hLost (hPair.mpr ⟨hLoses, hImports, hUnpaired⟩)

------------------------------------------------------------
-- Rules That Hold One Field
------------------------------------------------------------

/- A rule gets the value that is kept of its only field. -/
theorem get?_kept_walkRule_singleton
    {field : Field}
    {value : Json.Value}
    {kept : FieldValue}
    (hKept : (walkValue check field value).kept = some kept) :
    (walkRule check [(field.key, value)]).kept.get? field =
      some kept := by
  have hKeys : (Json.Object.keys [(field.key, value)]).Nodup :=
    List.nodup_singleton _
  have hOutcomes :
      (walkMembers check [(field.key, value)]).kept =
        [(field, some kept)] := by
    simp [kept_walkMembers, memberOutcome?, Field.ofKey?_key,
      hKept]
  have hPair : ¬lostPair [(field, some kept)] field := by
    simp [lostPair, losesDelimiter]
  rw [get?_kept_walkRule_eq, hOutcomes, if_neg hPair,
    ← hOutcomes, get?_assemble_walkMembers check hKeys]
  exact ⟨value, List.mem_singleton_self _, hKept⟩

/- A field alone is not what stops an import. -/
theorem errors_walkRule_singleton
    {member : String × Json.Value}
    (hMember : member ∈ members)
    {path : String}
    (hErrors : (walkRule check members).errors path = [])
    (other : String) :
    (walkRule check [member]).errors other = [] := by
  rw [Walk.errors_eq_nil_iff] at hErrors ⊢
  simp only [walkRule, Walk.join, keys_settled,
    List.append_nil, keys_walkMembers, List.mem_flatMap]
    at hErrors ⊢
  rintro groupKey ⟨only, hOnly, hKey⟩
  cases List.mem_singleton.mp hOnly
  exact hErrors groupKey ⟨member, hMember, hKey⟩

end Import

open Import

/-
  If an import of a rule succeeds then the rule has a field just
  if its value imports, unless a delimiter of the rule does not.
  Then the fields that lost their pair are not there either.
  Each field has the value that it gets in a rule that holds no
  other field.
-/
theorem importRule_fields
    (check : Acceptance)
    (path : String)
    (members : Json.Object)
    (hKeys : members.keys.Nodup)
    (journal : Journal)
    (rule : Rule)
    (hRun :
      ((importRule check path members).start journal).1 =
        .ok rule)
    (field : Field) :
    ((∀ other : Field, other.isDelimiter →
        HasMember members other →
          ImportsField check members other) →
      (rule.has field ↔ ImportsField check members field)) ∧
    ((∃ other : Field, other.isDelimiter ∧
        HasMember members other ∧
          ¬ImportsField check members other) →
      (rule.has field ↔
        ImportsField check members field ∧
          ¬LosesPair (ImportsField check members) field)) ∧
    (rule.has field →
      ∃ value alone, (field.key, value) ∈ members ∧
        (∀ path journal,
          ((importRule check path [(field.key, value)]).start
              journal).1 =
            .ok alone) ∧
        rule.get? field = alone.get? field) := by
  rcases (importRule_follows check path members).of_ok
    hRun with ⟨hErrors, rfl, -⟩
  have hLoses := losesDelimiter_walkMembers_iff check hKeys
  refine ⟨?_, ?_, ?_⟩
  · intro hDelimiters
    have hNone :
        ¬losesDelimiter (walkMembers check members).kept := by
      rw [hLoses]
      rintro ⟨other, hDelimiter, hHas, hNot⟩
      exact hNot (hDelimiters other hDelimiter hHas)
    rw [has_kept_walkRule_iff check hKeys]
    exact and_iff_left fun hLost => hNone hLost.1
  · intro hLost
    rw [has_kept_walkRule_iff check hKeys,
      and_iff_right (hLoses.mpr hLost)]
  · intro hHas
    rcases Option.isSome_iff_exists.mp hHas with ⟨kept, hKept⟩
    rcases exists_member_of_get?_kept check hKept with
      ⟨value, hMember, hValue⟩
    refine
      ⟨value, (walkRule check [(field.key, value)]).kept,
        hMember, ?_, ?_⟩
    · intro other start
      have hFollows :=
        importRule_follows check other [(field.key, value)]
          start
      rw [errors_walkRule_singleton check hMember hErrors]
        at hFollows
      exact hFollows.1
    · rw [hKept, get?_kept_walkRule_singleton check hValue]

/-
  A rule whose begin is refused, behind an end with a
  backreference and captures for it, between a key that is not
  known and a list with an item that is lost.
-/
def mixedMembers : Json.Object :=
  [("endCaptures",
      .object [("1", .object [("name", .string "close")])]),
    ("disabled", .bool true),
    ("end", .string "\\1"),
    ("begin", .string "("),
    ("patterns",
      .array [.null, .object [("match", .string "a")]]),
    ("name", .string "group")]

/- The import keeps the name and the list, and no delimiter. -/
theorem importRule_fields_mixedMembers :
    let check : Acceptance := fun text =>
      if text = "(" then some "refused" else none
    let rule := (walkRule check mixedMembers).kept
    ((importRule check "" mixedMembers).start
          Journal.empty).1 =
        .ok rule ∧
      mixedMembers.keys.Nodup ∧
      Field.all.filter rule.has = [.name, .patterns] ∧
      ∀ field,
        rule.has field ↔
          ImportsField check mixedMembers field ∧
            ¬LosesPair (ImportsField check mixedMembers)
              field := by
  intro check rule
  have hRun :
      ((importRule check "" mixedMembers).start
          Journal.empty).1 =
        .ok rule := by
    rfl
  have hKeys : mixedMembers.keys.Nodup := by decide
  have hLost :
      ∃ other : Field, other.isDelimiter ∧
        HasMember mixedMembers other ∧
          ¬ImportsField check mixedMembers other :=
    ⟨.beginPattern, by decide⟩
  have hFields :=
    importRule_fields check "" mixedMembers hKeys Journal.empty
      rule hRun
  exact
    ⟨hRun, hKeys, by decide, fun field =>
      (hFields field).2.1 hLost⟩

end TextMate
