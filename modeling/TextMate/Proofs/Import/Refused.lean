import TextMate.Oniguruma.Check
import TextMate.Proofs.Import.Fields
import TextMate.Proofs.Pattern.Reference

/-
  This file proves which patterns stay in a rule although they
  are refused: those of an end or a while in which a backslash
  stands in front of a digit.

  Backreferences of such a pattern are to the groups of another
  one, so it cannot be judged on its own.  But an escaped
  backslash in front of a digit is no reference, and a refused
  pattern with one is kept as well, without a diagnostic.

  Main declarations:
    * `Import.importsField_ending_iff`
    * `Import.mem_diagnostics_of_refused`
    * `importRule_keeps_references`
-/

namespace TextMate

namespace Import

variable {check : Acceptance}
variable {members : Json.Object}
variable {field : Field}
variable {text reason : String}

/- Such a field holds a pattern. -/
theorem kind_of_ending
    (hEnding : field = .endPattern ∨ field = .whilePattern) :
    field.kind = .pattern := by
  rcases hEnding with rfl | rfl <;> rfl

/-
  A refused pattern of an end or a while imports just if it has
  a reference or a lookalike.
-/
theorem importsField_ending_iff
    (hKeys : members.keys.Nodup)
    (hEnding : field = .endPattern ∨ field = .whilePattern)
    (hMember : (field.key, .string text) ∈ members)
    (hRefused : check text = some reason) :
    ImportsField check members field ↔
      (Pattern.ofText text).HasReference ∨
        (Pattern.ofText text).HasLookalike := by
  rw [importsField_iff check hKeys hMember,
    ← Pattern.hasBackreferences_iff]
  have hKind := kind_of_ending hEnding
  simp [importsAlone, hKind, hRefused, hEnding]

/- A pattern that is refused and not kept is reported. -/
theorem mem_diagnostics_of_refused
    (hEnding : field = .endPattern ∨ field = .whilePattern)
    (hMember : (field.key, .string text) ∈ members)
    (hRefused : check text = some reason)
    (hNone :
      ¬((Pattern.ofText text).HasReference ∨
        (Pattern.ofText text).HasLookalike))
    (path : String) :
    ⟨.error, Rule.fieldPath path field,
        .malformedPattern text reason⟩ ∈
      (walkRule check members).diagnostics path := by
  have hKind := kind_of_ending hEnding
  have hJudged :
      isJudged field (Pattern.ofText text) = true := by
    rw [← Pattern.hasBackreferences_iff] at hNone
    simp [isJudged, hNone]
  have hFinding :
      ⟨[], .error, .malformedPattern text reason⟩ ∈
        ownFindings check (field.key, .string text) := by
    simp [ownFindings, Field.ofKey?_key, walkValue, walkText,
      hKind, hJudged, hRefused, Walk.fault]
  refine
    List.mem_map.mpr
      ⟨⟨[.member field.key], .error,
        .malformedPattern text reason⟩, ?_, rfl⟩
  rw [findings_walkRule, List.mem_append, List.mem_flatMap]
  exact
    Or.inl ⟨_, hMember, List.mem_map.mpr ⟨_, hFinding, rfl⟩⟩

end Import

open Import

/-
  A pattern is taken to have backreferences just if one of its
  pieces is a reference, or an escaped backslash stands in front
  of a digit.  If the pattern of an end or a while is refused
  then only such a pattern is kept, and it goes just with its
  pair; any other one is reported.
-/
theorem importRule_keeps_references
    (check : Acceptance)
    (path : String)
    (members : Json.Object)
    (hKeys : members.keys.Nodup)
    (journal : Journal)
    (rule : Rule)
    (hRun :
      ((importRule check path members).start journal).1 =
        .ok rule)
    (field : Field)
    (hEnding : field = .endPattern ∨ field = .whilePattern)
    (text reason : String)
    (hMember : (field.key, .string text) ∈ members)
    (hRefused : check text = some reason) :
    let kept := Pattern.ofText text
    (∀ pattern : Pattern,
      pattern.hasBackreferences ↔
        pattern.HasReference ∨ pattern.HasLookalike) ∧
    (rule.has field → kept.HasReference ∨ kept.HasLookalike) ∧
    (kept.HasReference ∨ kept.HasLookalike →
      rule.has field ∨
        LosesPair (ImportsField check members) field) ∧
    (¬(kept.HasReference ∨ kept.HasLookalike) →
      ⟨.error, Rule.fieldPath path field,
          .malformedPattern text reason⟩ ∈
        ((importRule check path members).start
          journal).2.diagnostics) := by
  intro kept
  rcases (importRule_follows check path members).of_ok hRun with
    ⟨-, rfl, hDiagnostics⟩
  have hImports :=
    importsField_ending_iff hKeys hEnding hMember hRefused
  have hHas := has_kept_walkRule_iff check hKeys field
  refine ⟨Pattern.hasBackreferences_iff, ?_, ?_, ?_⟩
  · exact fun hKept => hImports.mp (hHas.mp hKept).1
  · intro hFound
    by_cases hPair :
        LosesPair (ImportsField check members) field
    · exact Or.inr hPair
    · exact
        Or.inl
          (hHas.mpr ⟨hImports.mpr hFound, fun hLost =>
            hPair hLost.2⟩)
  · intro hNone
    rw [hDiagnostics]
    exact
      List.mem_append_right _
        (mem_diagnostics_of_refused hEnding hMember hRefused
          hNone path)

/- A region whose end refers to a group of its begin. -/
def referringMembers : Json.Object :=
  [("begin", .string "<(\\w+)"), ("end", .string "(\\1")]

/- The end is refused and kept. -/
theorem importRule_keeps_references_referringMembers :
    let check := Oniguruma.check
    let rule := (walkRule check referringMembers).kept
    ((importRule check "" referringMembers).start .empty).1 =
        .ok rule ∧
      (check "(\\1").isSome ∧
      (Pattern.ofText "(\\1").HasReference ∧
      rule.has .endPattern := by
  intro check rule
  have hErrors :
      (walkRule check referringMembers).errors "" = [] := by
    rw [Walk.errors_eq_nil_iff]
    decide +kernel
  have hRun :=
    ((importRule_follows check "" _).of_errors_eq_nil hErrors
      .empty).1
  have hRefused : (check "(\\1").isSome := by decide +kernel
  rcases Option.isSome_iff_exists.mp hRefused with
    ⟨reason, hReason⟩
  have hReference : (Pattern.ofText "(\\1").HasReference := by
    decide +kernel
  have hPair :
      ¬LosesPair (ImportsField check referringMembers)
        .endPattern := by
    decide +kernel
  have hKept :=
    importRule_keeps_references check "" referringMembers
      (by decide) .empty rule hRun .endPattern (Or.inl rfl)
      "(\\1" reason
      (List.mem_cons_of_mem _ List.mem_cons_self) hReason
  exact
    ⟨hRun, hRefused, hReference,
      (hKept.2.2.1 (Or.inl hReference)).resolve_right hPair⟩

/- A region whose end has an escaped backslash and a digit. -/
def lookalikeMembers : Json.Object :=
  [("begin", .string "a"), ("end", .string "(\\\\1")]

/-
  The end is refused and has no reference, but it is kept and
  nothing is reported.
-/
theorem lookalikeMembers_keeps_refused :
    let check := Oniguruma.check
    let pattern := Pattern.ofText "(\\\\1"
    let outcome :=
      (importRule check "" lookalikeMembers).start .empty
    lookalikeMembers.keys.Nodup ∧
      (check "(\\\\1").isSome ∧
      pattern.hasBackreferences ∧
      ¬pattern.HasReference ∧
      outcome.1.toOption.map
          (fun rule => rule.has .endPattern) =
        some true ∧
      outcome.2.diagnostics = [] := by
  intro check pattern outcome
  exact
    ⟨by decide, by decide +kernel, by decide +kernel,
      by decide +kernel, by decide +kernel, by decide +kernel⟩

end TextMate
