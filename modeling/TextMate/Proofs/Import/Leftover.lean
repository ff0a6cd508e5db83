import TextMate.Oniguruma.Check
import TextMate.Proofs.Import.Fields

/-
  This file proves which captures stay in a rule whose delimiter
  they belong to is lost.

  If a delimiter is dropped then the fields that lost their pair
  are removed, and so are the captures that belong to these.
  The captures of the delimiter that was dropped are not among
  them: they stay behind, unless they belong to an end or a
  while and the begin is dropped as well.

  Main declarations:
    * `Field.delimiter?`
    * `Import.Attached`
    * `Import.Drops`
    * `importRule_leaves_captures`
-/

namespace TextMate

/- The delimiter that the captures of a field belong to. -/
def Field.delimiter? : Field → Option Field
  | .beginCaptures => some .beginPattern
  | .endCaptures => some .endPattern
  | .whileCaptures => some .whilePattern
  | .includeTarget | .matchPattern | .beginPattern
  | .endPattern | .whilePattern | .name | .contentName
  | .captures | .patterns => none

namespace Import

/- The captures of a delimiter only occur together with it. -/
def Attached
    (members : Json.Object) : Prop :=
  ∀ field own, field.delimiter? = some own →
    HasMember members field → HasMember members own

instance : DecidablePred Attached := fun members =>
  decidable_of_iff
    (∀ field ∈ Field.all, ∀ own ∈ field.delimiter?,
      HasMember members field → HasMember members own)
    ⟨fun hAll field own hOwn =>
        hAll field (Field.mem_all field) own hOwn,
      fun hAttached field _ own hOwn =>
        hAttached field own hOwn⟩

/- A rule has the key of a field, but no value that imports. -/
def Drops
    (check : Acceptance)
    (members : Json.Object)
    (field : Field) : Prop :=
  HasMember members field ∧ ¬ImportsField check members field

instance
    (check : Acceptance)
    (members : Json.Object) :
    DecidablePred (Drops check members) := by
  intro field
  unfold Drops
  infer_instance

/- A field that imports has a member. -/
theorem ImportsField.hasMember
    {check : Acceptance}
    {members : Json.Object}
    {field : Field}
    (hImports : ImportsField check members field) :
    HasMember members field := by
  rcases hImports with ⟨member, hMember, hKey, -⟩
  exact List.mem_map.mpr ⟨member, hMember, hKey⟩

end Import

open Import

/-
  If the import of a rule drops a delimiter then captures are
  left without the delimiter they belong to just if this one was
  itself dropped and, where it is an end or a while, the begin
  was not.
-/
theorem importRule_leaves_captures
    (check : Acceptance)
    (path : String)
    (members : Json.Object)
    (hKeys : members.keys.Nodup)
    (hAttached : Attached members)
    (journal : Journal)
    (rule : Rule)
    (hRun :
      ((importRule check path members).start journal).1 =
        .ok rule)
    (hDropped :
      ∃ other : Field, other.isDelimiter ∧
        Drops check members other)
    (field own : Field)
    (hOwn : field.delimiter? = some own) :
    (rule.has field ∧ ¬rule.has own) ↔
      ImportsField check members field ∧
        Drops check members own ∧
        (own = .beginPattern ∨
          ImportsField check members .beginPattern) := by
  rcases (importRule_follows check path members).of_ok hRun with
    ⟨-, rfl, -⟩
  have hLost :
      losesDelimiter (walkMembers check members).kept :=
    (losesDelimiter_walkMembers_iff check hKeys).mpr hDropped
  have hMember :
      ImportsField check members field → HasMember members own :=
    fun hImports => hAttached field own hOwn hImports.hasMember
  simp only [has_kept_walkRule_iff check hKeys, hLost, true_and,
    Drops]
  cases field with
  | beginCaptures | endCaptures | whileCaptures =>
      cases hOwn
      simp only [LosesPair]
      tauto
  | includeTarget | matchPattern | beginPattern | endPattern
  | whilePattern | name | contentName | captures | patterns =>
      cases hOwn

/- A region with captures for both ends, whose end is refused. -/
def closedMembers : Json.Object :=
  [("begin", .string "a"),
    ("beginCaptures",
      .object [("0", .object [("name", .string "open")])]),
    ("end", .string "("),
    ("endCaptures",
      .object [("0", .object [("name", .string "close")])])]

/- The begin goes with its captures, and those of the end stay. -/
theorem importRule_leaves_captures_closedMembers :
    let check := Oniguruma.check
    let rule := (walkRule check closedMembers).kept
    ((importRule check "" closedMembers).start .empty).1 =
        .ok rule ∧
      Attached closedMembers ∧
      Drops check closedMembers .endPattern ∧
      ¬(rule.has .beginCaptures ∧ ¬rule.has .beginPattern) ∧
      rule.has .endCaptures ∧ ¬rule.has .endPattern := by
  intro check rule
  have hErrors :
      (walkRule check closedMembers).errors "" = [] := by
    rw [Walk.errors_eq_nil_iff]
    decide +kernel
  have hRun :=
    ((importRule_follows check "" _).of_errors_eq_nil hErrors
      .empty).1
  have hAttached : Attached closedMembers := by decide
  have hDrops : Drops check closedMembers .endPattern := by
    decide +kernel
  have hKeeps :
      ¬Drops check closedMembers .beginPattern := by
    decide +kernel
  have hImports :
      ImportsField check closedMembers .endCaptures ∧
        ImportsField check closedMembers .beginPattern := by
    decide +kernel
  have hLeaves :=
    importRule_leaves_captures check "" closedMembers
      (by decide) hAttached .empty rule hRun
      ⟨.endPattern, rfl, hDrops⟩
  refine ⟨hRun, hAttached, hDrops, ?_, ?_⟩
  · rw [hLeaves .beginCaptures .beginPattern rfl]
    exact fun hAll => hKeeps hAll.2.1
  · rw [hLeaves .endCaptures .endPattern rfl]
    exact ⟨hImports.1, hDrops, Or.inr hImports.2⟩

/- A region with captures for its begin, which is refused. -/
def openedMembers : Json.Object :=
  [("begin", .string "("),
    ("beginCaptures",
      .object [("0", .object [("name", .string "open")])]),
    ("end", .string "b")]

/- The captures of the begin are left without it. -/
theorem openedMembers_leaves_half :
    let check := Oniguruma.check
    let outcome :=
      (importRule check "" openedMembers).start .empty
    openedMembers.keys.Nodup ∧
      Attached openedMembers ∧
      Drops check openedMembers .beginPattern ∧
      outcome.1.toOption.map
          (fun rule =>
            (rule.has .beginCaptures, rule.has .beginPattern)) =
        some (true, false) := by
  intro check outcome
  exact
    ⟨by decide, by decide, by decide +kernel,
      by decide +kernel⟩

end TextMate
