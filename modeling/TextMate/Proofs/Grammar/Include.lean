import TextMate.Proofs.Grammar.Site
import TextMate.Proofs.Import.Follows

/-
  This file proves what the check of the includes of a grammar
  reports: one warning for each rule that includes an entry
  which the repository does not have, in the order of sites, and
  nothing else.

  Main declarations:
    * `Grammar.missing?`
    * `Grammar.mem_danglingIncludes_iff`
    * `Grammar.IsDangling`
    * `Grammar.start_reportDangling`
    * `Grammar.reportDangling_reports`
-/

namespace TextMate

namespace Grammar

------------------------------------------------------------
-- Includes of Entries
------------------------------------------------------------

/- An include of an entry is a hash sign before its name. -/
theorem localTarget?_eq_some_iff
    (rule : Rule)
    (target : String) :
    localTarget? rule = some target ↔
      rule.includeTarget = some ("#" ++ target) := by
  unfold localTarget?
  cases rule.includeTarget with
  | none => simp
  | some text =>
      have hText :
          text = "#" ++ target ↔
            text.toList = '#' :: target.toList := by
        rw [← String.toList_inj, String.toList_append]
        rfl
      rw [Option.map_some, Option.some.injEq, hText]
      split
      · rename_i name hName
        rw [Option.some.inj hName, Option.some.injEq,
          List.cons.injEq, and_iff_right rfl]
        constructor
        · rintro rfl
          exact String.toList_ofList.symm
        · rintro rfl
          exact String.ofList_toList
      · rename_i hOther
        constructor
        · exact nofun
        · exact fun hName =>
            absurd (congrArg some hName) (hOther _)

/- The entry that a rule includes and a repository misses. -/
def missing?
    (repository : Repository)
    (rule : Rule) : Option String :=
  (localTarget? rule).filter fun target =>
    !repository.contains target

theorem missing?_eq_some_iff
    (repository : Repository)
    (rule : Rule)
    (target : String) :
    missing? repository rule = some target ↔
      localTarget? rule = some target ∧
        target ∉ repository.names := by
  rw [missing?, Option.filter_eq_some_iff,
    ← repository.contains_iff]
  simp

/- The warning that a rule at a path includes what is missing. -/
def danglingWarning
    (path : String)
    (target : String) : Diagnostic :=
  ⟨.warning, Rule.fieldPath path .includeTarget,
    .danglingInclude target⟩

theorem danglingInclude?_eq_map
    (repository : Repository)
    (path : String)
    (rule : Rule) :
    danglingInclude? repository path rule =
      (missing? repository rule).map (danglingWarning path) := by
  unfold danglingInclude? missing?
  cases localTarget? rule with
  | none => rfl
  | some target =>
      simp only [Option.filter_some]
      cases repository.contains target <;> rfl

/- A dangling include is one of a rule that is visited. -/
theorem mem_danglingIncludes_iff
    (grammar : Grammar)
    (diagnostic : Diagnostic) :
    diagnostic ∈ grammar.danglingIncludes ↔
      ∃ path rule target,
        (path, rule) ∈ grammar.visit ∧
          localTarget? rule = some target ∧
          target ∉ grammar.repository.names ∧
          diagnostic =
            ⟨.warning, Rule.fieldPath path .includeTarget,
              .danglingInclude target⟩ := by
  rw [danglingIncludes, List.mem_filterMap]
  simp only [danglingInclude?_eq_map, Option.map_eq_some_iff,
    missing?_eq_some_iff, Prod.exists, danglingWarning]
  constructor
  · rintro ⟨path, rule, hVisited, target, ⟨hTarget, hMissing⟩, rfl⟩
    exact ⟨path, rule, target, hVisited, hTarget, hMissing, rfl⟩
  · rintro ⟨path, rule, target, hVisited, hTarget, hMissing, rfl⟩
    exact ⟨path, rule, hVisited, target, ⟨hTarget, hMissing⟩, rfl⟩

------------------------------------------------------------
-- Reports
------------------------------------------------------------

/- Diagnostics that are pushed in order go behind the others. -/
theorem start_forM_push
    (found : List Diagnostic)
    (journal : Journal) :
    Run.start
        (found.forM fun diagnostic =>
          (modify fun journal => journal.push diagnostic :
            Run PUnit))
        journal =
      (.ok ⟨⟩,
        ⟨journal.diagnostics ++ found,
          journal.log ++ found.map Diagnostic.record⟩) := by
  induction found generalizing journal with
  | nil =>
      rw [List.map_nil, List.append_nil, List.append_nil]
      rfl
  | cons diagnostic rest ih =>
      have hFirst :
          (modify fun journal => journal.push diagnostic :
              Run PUnit).start journal =
            (.ok ⟨⟩, journal.push diagnostic) := rfl
      rw [List.forM, Run.start_bind, hFirst]
      refine (ih (journal.push diagnostic)).trans ?_
      simp only [Journal.push, List.append_assoc,
        List.singleton_append, List.map_cons]

/- The report of the includes pushes all that is found. -/
theorem start_reportDangling
    (grammar : Grammar)
    (journal : Journal) :
    grammar.reportDangling.start journal =
      (.ok grammar.danglingIncludes.length,
        ⟨journal.diagnostics ++ grammar.danglingIncludes,
          journal.log ++
            grammar.danglingIncludes.map
              Diagnostic.record⟩) := by
  rw [reportDangling, Run.start_bind, start_forM_push]
  rfl

------------------------------------------------------------
-- Sites with Dangling Includes
------------------------------------------------------------

/- The rule at a site includes an entry that is missing. -/
def IsDangling
    (grammar : Grammar)
    (site : Site)
    (target : String) : Prop :=
  ∃ rule, grammar.at? site = some rule ∧
    rule.includeTarget = some ("#" ++ target) ∧
    target ∉ grammar.repository.names

/- The sites of all such rules, each with what is missing. -/
def danglingSites
    (grammar : Grammar) : List (Site × String) :=
  grammar.sites.filterMap fun entry =>
    (missing? grammar.repository entry.2).map fun target =>
      (entry.1, target)

theorem danglingIncludes_eq_map
    (grammar : Grammar) :
    grammar.danglingIncludes =
      grammar.danglingSites.map fun found =>
        danglingWarning found.1.path found.2 := by
  rw [danglingIncludes, visit_eq_map_sites, List.filterMap_map,
    danglingSites, List.map_filterMap]
  refine List.filterMap_congr fun entry _ => ?_
  rw [Option.map_map]
  exact danglingInclude?_eq_map _ _ _

variable {grammar : Grammar}

theorem mem_danglingSites_iff
    (hKeyed : grammar.Keyed)
    (site : Site)
    (target : String) :
    (site, target) ∈ grammar.danglingSites ↔
      grammar.IsDangling site target := by
  rw [danglingSites, List.mem_filterMap, IsDangling]
  simp only [Prod.exists, Option.map_eq_some_iff,
    missing?_eq_some_iff, localTarget?_eq_some_iff,
    mem_sites_iff hKeyed, Prod.mk.injEq]
  constructor
  · rintro ⟨_, rule, hRule, _, ⟨hInclude, hMissing⟩, rfl, rfl⟩
    exact ⟨rule, hRule, hInclude, hMissing⟩
  · rintro ⟨rule, hRule, hInclude, hMissing⟩
    exact
      ⟨site, rule, hRule, target, ⟨hInclude, hMissing⟩, rfl,
        rfl⟩

theorem pairwise_danglingSites
    (hKeyed : grammar.Keyed) :
    grammar.danglingSites.Pairwise fun x y =>
      grammar.Before x.1 y.1 := by
  rw [danglingSites, List.pairwise_filterMap]
  refine (pairwise_sites hKeyed).imp ?_
  intro first second hBefore x hFirst y hSecond
  rcases Option.map_eq_some_iff.mp hFirst with ⟨_, -, rfl⟩
  rcases Option.map_eq_some_iff.mp hSecond with ⟨_, -, rfl⟩
  exact hBefore

/-
  The report of the includes of a grammar gives the number of
  sites whose rule includes an entry that is missing.  It adds
  one warning for each of them, in their order, behind the
  diagnostics that are there, and nothing else.  So it gives
  zero just if each include with a hash sign names an entry.
-/
theorem reportDangling_reports
    (grammar : Grammar)
    (hKeyed : grammar.Keyed)
    (journal : Journal) :
    ∃ dangling : List (Site × String),
      (dangling.Pairwise fun x y => grammar.Before x.1 y.1) ∧
      (∀ site target,
        (site, target) ∈ dangling ↔
          grammar.IsDangling site target) ∧
      (let warnings :=
        dangling.map fun found =>
          danglingWarning found.1.path found.2
      grammar.reportDangling.start journal =
        (.ok dangling.length,
          ⟨journal.diagnostics ++ warnings,
            journal.log ++ warnings.map Diagnostic.record⟩)) ∧
      ((grammar.reportDangling.start journal).1 = .ok 0 ↔
        ∀ site rule target, grammar.at? site = some rule →
          rule.includeTarget = some ("#" ++ target) →
          target ∈ grammar.repository.names) := by
  have hMember := mem_danglingSites_iff hKeyed
  refine
    ⟨grammar.danglingSites, pairwise_danglingSites hKeyed,
      hMember, ?_, ?_⟩
  · simp only [start_reportDangling, danglingIncludes_eq_map,
      List.length_map]
  · rw [start_reportDangling, danglingIncludes_eq_map,
      List.length_map, Except.ok.injEq, List.length_eq_zero_iff,
      List.eq_nil_iff_forall_not_mem]
    simp only [Prod.forall, hMember, IsDangling, not_exists,
      not_and, not_not]
    constructor
    · intro hNone site rule target
      exact hNone site target rule
    · intro hAll site target rule
      exact hAll site rule target

end Grammar

/-
  A grammar with an include of an entry that is there, includes
  that name none, and two dangling ones: in captures behind an
  entry, and of an empty name at the root.
-/
def looseGrammar : Grammar where
  name := "loose"
  scopeName := "source.loose"
  injectionSelector := none
  patterns :=
    [{ Rule.empty with includeTarget := some "$self" },
      { Rule.empty with includeTarget := some "#" },
      { Rule.empty with includeTarget := some "source.js#gone" }]
  repository :=
    ⟨[("digit",
        { Rule.empty with matchPattern := some (.verbatim "0") }),
      ("list",
        { Rule.empty with
          beginCaptures :=
            some
              [(1,
                { Rule.empty with
                  includeTarget := some "#gone" })]
          patterns :=
            some
              [{ Rule.empty with
                includeTarget := some "#digit" }] })]⟩
  extra := []

/- Both are reported, that of the captures first. -/
theorem reportDangling_reports_looseGrammar :
    let warnings : List Diagnostic :=
      [⟨.warning, "repository.list.beginCaptures.1.include",
          .danglingInclude "gone"⟩,
        ⟨.warning, "patterns[1].include", .danglingInclude ""⟩]
    looseGrammar.Keyed ∧
      (looseGrammar.reportDangling.start .empty).1 = .ok 2 ∧
      ∃ dangling : List (Site × String),
        dangling.length = 2 ∧
          (∀ site target,
            (site, target) ∈ dangling ↔
              looseGrammar.IsDangling site target) ∧
          (dangling.map fun found =>
            Grammar.danglingWarning found.1.path found.2) =
            warnings := by
  intro warnings
  have hKeyed : looseGrammar.Keyed := by decide
  have hCount :
      (looseGrammar.reportDangling.start .empty).1 = .ok 2 := by
    rfl
  have hWarnings :
      (looseGrammar.reportDangling.start .empty).2.diagnostics =
        warnings := by
    decide +kernel
  rcases looseGrammar.reportDangling_reports hKeyed .empty with
    ⟨dangling, -, hDangling, hRun, -⟩
  rw [hRun] at hCount hWarnings
  exact
    ⟨hKeyed, by rw [hRun, hCount], dangling,
      Except.ok.inj hCount, hDangling, hWarnings⟩

end TextMate
