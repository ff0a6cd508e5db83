import TextMate.Proofs.Grammar.Site

/-
  This file proves what the check of a grammar finds out: a
  grammar passes just if each of its rules is in shape, and
  otherwise the error names the path of the first rule that is
  not.

  The check stops at the first fault of a visit.  Which rule is
  first is said by the order of sites.

  Main declarations:
    * `Rule.InShape`
    * `Rule.shapeFault?_eq_none_iff`
    * `checkShapes_eq_ok_iff`
    * `checkShapes_eq_error_iff`
    * `Grammar.validate_finds_first`
-/

namespace TextMate

------------------------------------------------------------
-- Shapes of Rules
------------------------------------------------------------

/-
  A rule does not both match and begin, it begins just if it has
  exactly one of an end and a while, and otherwise it has
  neither of them.
-/
structure Rule.InShape
    (rule : Rule) : Prop where
  apart :
    ¬(rule.has .matchPattern ∧ rule.has .beginPattern)
  paired :
    rule.has .beginPattern ↔
      (rule.has .endPattern ∧ ¬rule.has .whilePattern) ∨
        (¬rule.has .endPattern ∧ rule.has .whilePattern)
  closed :
    ¬rule.has .beginPattern →
      ¬rule.has .endPattern ∧ ¬rule.has .whilePattern

/-
  A rule is in shape if it begins just where it ends or
  continues, does not do both, and has no match if it begins.
-/
theorem Rule.shapeFault?_eq_none_iff
    (rule : Rule) :
    rule.shapeFault? = none ↔
      ¬(rule.has .matchPattern ∧ rule.has .beginPattern) ∧
        (rule.has .beginPattern ↔
          rule.has .endPattern ∨ rule.has .whilePattern) ∧
        ¬(rule.has .endPattern ∧ rule.has .whilePattern) := by
  unfold shapeFault? has
  simp only [get?, Option.isSome_map]
  cases rule.matchPattern.isSome <;>
    cases rule.beginPattern.isSome <;>
    cases rule.endPattern.isSome <;>
    cases rule.whilePattern.isSome <;> simp

/- A rule has no fault just if it is in shape. -/
theorem Rule.inShape_iff
    (rule : Rule) :
    rule.InShape ↔ rule.shapeFault? = none := by
  rw [shapeFault?_eq_none_iff]
  constructor
  · rintro ⟨hApart, hPaired, hClosed⟩
    refine ⟨hApart, ⟨fun hBegin => ?_, ?_⟩, ?_⟩
    · exact (hPaired.mp hBegin).imp And.left And.right
    · intro hEither
      by_contra hNot
      exact hEither.elim (hClosed hNot).1 (hClosed hNot).2
    · rintro ⟨hEnd, hWhile⟩
      by_cases hBegin : rule.has .beginPattern
      · rcases hPaired.mp hBegin with hOne | hOther
        · exact hOne.2 hWhile
        · exact hOther.1 hEnd
      · exact (hClosed hBegin).1 hEnd
  · rintro ⟨hApart, hPaired, hBoth⟩
    refine ⟨hApart, hPaired.trans ?_, ?_⟩
    · by_cases hEnd : rule.has .endPattern
      · have hWhile : ¬rule.has .whilePattern :=
          fun hWhile => hBoth ⟨hEnd, hWhile⟩
        simp [hEnd, hWhile]
      · simp [hEnd]
    · exact fun hNot => not_or.mp (mt hPaired.mpr hNot)

------------------------------------------------------------
-- Checks of Visited Rules
------------------------------------------------------------

/- The error for a rule that is out of shape. -/
theorem firstShapeError?_eq_findSome?
    (rules : List (String × Rule)) :
    firstShapeError? rules =
      rules.findSome? fun visited =>
        visited.2.shapeFault?.map fun fault =>
          .invalidRule visited.1 fault.reason := by
  induction rules with
  | nil => rfl
  | cons visited rest ih =>
      rw [firstShapeError?, ih, List.findSome?_cons]
      cases visited.2.shapeFault? <;> rfl

/- Visited rules pass if each of them is in shape. -/
theorem checkShapes_eq_ok_iff
    (rules : List (String × Rule)) :
    checkShapes rules = .ok () ↔
      ∀ visited ∈ rules, visited.2.shapeFault? = none := by
  have hNone :
      firstShapeError? rules = none ↔
        ∀ visited ∈ rules, visited.2.shapeFault? = none := by
    rw [firstShapeError?_eq_findSome?, List.findSome?_eq_none_iff]
    simp only [Option.map_eq_none_iff]
  rw [← hNone, checkShapes]
  cases firstShapeError? rules <;> simp

/- Visited rules fail at the first one that is out of shape. -/
theorem checkShapes_eq_error_iff
    (rules : List (String × Rule))
    (error : Error) :
    checkShapes rules = .error error ↔
      ∃ earlier path rule later fault,
        rules = earlier ++ (path, rule) :: later ∧
          (∀ visited ∈ earlier,
            visited.2.shapeFault? = none) ∧
          rule.shapeFault? = some fault ∧
          error = .invalidRule path fault.reason := by
  have hError :
      checkShapes rules = .error error ↔
        firstShapeError? rules = some error := by
    rw [checkShapes]
    cases firstShapeError? rules <;> simp
  rw [hError, firstShapeError?_eq_findSome?,
    List.findSome?_eq_some_iff]
  simp only [Option.map_eq_none_iff, Option.map_eq_some_iff]
  constructor
  · rintro
      ⟨earlier, ⟨path, rule⟩, later, hRules,
        ⟨fault, hFault, rfl⟩, hEarlier⟩
    exact
      ⟨earlier, path, rule, later, fault, hRules, hEarlier,
        hFault, rfl⟩
  · rintro
      ⟨earlier, path, rule, later, fault, hRules, hEarlier,
        hFault, rfl⟩
    exact
      ⟨earlier, (path, rule), later, hRules,
        ⟨fault, hFault, rfl⟩, hEarlier⟩

/- Visited rules fail at one that is out of shape. -/
theorem exists_shapeFault_of_checkShapes
    {rules : List (String × Rule)}
    {error : Error}
    (hCheck : checkShapes rules = .error error) :
    ∃ visited ∈ rules, ∃ fault,
      visited.2.shapeFault? = some fault ∧
        error = .invalidRule visited.1 fault.reason := by
  rcases (checkShapes_eq_error_iff rules error).mp hCheck with
    ⟨earlier, path, rule, later, fault, rfl, -, hFault⟩
  exact
    ⟨(path, rule), List.mem_append_right _ List.mem_cons_self,
      fault, hFault⟩

------------------------------------------------------------
-- Grammars
------------------------------------------------------------

/-
  A grammar is valid just if the rules at all of its sites are
  in shape.  Otherwise the error has the path of the first site
  whose rule is out of shape, and the reason is its fault.
-/
theorem Grammar.validate_finds_first
    (grammar : Grammar)
    (hKeyed : grammar.Keyed) :
    (grammar.validate = .ok () ↔
      ∀ site rule, grammar.at? site = some rule →
        rule.InShape) ∧
    ∀ error, grammar.validate = .error error ↔
      ∃ site rule fault,
        grammar.IsFirst (fun rule => ¬rule.InShape) site rule ∧
          rule.shapeFault? = some fault ∧
          error = .invalidRule site.path fault.reason := by
  rw [validate, visit_eq_map_sites]
  constructor
  · rw [checkShapes_eq_ok_iff, List.forall_mem_map]
    simp only [Prod.forall, mem_sites_iff hKeyed,
      Rule.inShape_iff]
  · intro error
    simp only [checkShapes_eq_error_iff, isFirst_iff hKeyed,
      Rule.inShape_iff, not_not]
    constructor
    · rintro
        ⟨visited, path, rule, rest, fault, hSites, hVisited,
          hFault, rfl⟩
      rcases List.map_eq_append_iff.mp hSites with
        ⟨earlier, others, hSplit, rfl, hOthers⟩
      rcases List.map_eq_cons_iff.mp hOthers with
        ⟨⟨site, inner⟩, later, rfl, hSite, -⟩
      cases hSite
      have hFaulty : ¬inner.shapeFault? = none := by
        simp [hFault]
      exact
        ⟨site, inner, fault,
          ⟨earlier, later, hSplit, hFaulty,
            List.forall_mem_map.mp hVisited⟩,
          hFault, rfl⟩
    · rintro
        ⟨site, rule, fault,
          ⟨earlier, later, hSplit, -, hEarlier⟩, hFault, rfl⟩
      have hVisits :=
        congrArg
          (List.map fun entry => (entry.1.path, entry.2)) hSplit
      rw [List.map_append, List.map_cons] at hVisits
      exact
        ⟨_, site.path, rule, _, fault, hVisits,
          List.forall_mem_map.mpr hEarlier, hFault, rfl⟩

/-
  A grammar with three rules out of shape: two in the captures
  of a rule behind an entry, and the second root rule.
-/
def misshapenGrammar : Grammar where
  name := "misshapen"
  scopeName := "source.misshapen"
  injectionSelector := none
  patterns :=
    [.empty, { Rule.empty with whilePattern := some (.verbatim "c") }]
  repository :=
    ⟨[("plain",
        { Rule.empty with matchPattern := some (.verbatim "a") }),
      ("nested",
        { Rule.empty with
          patterns :=
            some
              [.empty,
                { Rule.empty with
                  endCaptures :=
                    some
                      [(2,
                        { Rule.empty with
                          endPattern := some (.verbatim "b") }),
                        (10,
                        { Rule.empty with
                          beginPattern :=
                            some (.verbatim "b") })] }] })]⟩
  extra := []

/- The error is that of the group with the smaller index. -/
theorem validate_finds_first_misshapenGrammar :
    misshapenGrammar.Keyed ∧
      misshapenGrammar.validate =
        .error
          (.invalidRule
            "repository.nested.patterns[1].endCaptures.2"
            "`end` without `begin`") ∧
      ∃ site rule,
        misshapenGrammar.IsFirst (fun rule => ¬rule.InShape)
          site rule ∧
          site.path =
            "repository.nested.patterns[1].endCaptures.2" := by
  have hKeyed : misshapenGrammar.Keyed := by decide
  have hError :
      misshapenGrammar.validate =
        .error
          (.invalidRule
            "repository.nested.patterns[1].endCaptures.2"
            "`end` without `begin`") := by
    decide +kernel
  rcases
    ((misshapenGrammar.validate_finds_first hKeyed).2 _).mp
      hError with
    ⟨site, rule, fault, hFirst, -, hPath⟩
  rw [Error.invalidRule.injEq] at hPath
  exact ⟨hKeyed, hError, site, rule, hFirst, hPath.1.symm⟩

end TextMate
