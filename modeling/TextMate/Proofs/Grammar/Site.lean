import TextMate.Proofs.Grammar.Repository
import TextMate.Proofs.Rule.Trail

/-
  This file gives each rule of a grammar an address, its site:
  the part of the grammar that it belongs to, and its trail in
  the rule of this part.  Sites are ordered as a grammar is
  visited, and again this order does not mention the visit.

  Main declarations:
    * `Part`, `Site`, `Site.path`
    * `Grammar.at?`
    * `Grammar.Before`
    * `Grammar.IsFirst`
    * `Grammar.sites`
    * `Grammar.mem_sites_iff`
    * `Grammar.pairwise_sites`
    * `Grammar.visit_eq_map_sites`
    * `Grammar.isFirst_iff`
-/

namespace TextMate

------------------------------------------------------------
-- Sites
------------------------------------------------------------

/- A part of a grammar with a rule of its own. -/
inductive Part where
  | entry (name : String)
  | pattern (position : Nat)
deriving DecidableEq

/- The path of the rule of a part. -/
def Part.path : Part → String
  | .entry name => Grammar.entryPath name
  | .pattern position =>
      Rule.itemPath Grammar.rootPath position

/- A trail in the rule of a part. -/
structure Site where
  part : Part
  trail : Trail
deriving DecidableEq

/- The path of the rule at a site. -/
def Site.path
    (site : Site) : String :=
  site.trail.path site.part.path

namespace Grammar

/- The rule of a part. -/
def part?
    (grammar : Grammar) : Part → Option Rule
  | .entry name => grammar.repository.get? name
  | .pattern position => grammar.patterns[position]?

/- The rule at a site. -/
def at?
    (grammar : Grammar)
    (site : Site) : Option Rule :=
  (grammar.part? site.part).bind fun rule =>
    rule.at? site.trail

------------------------------------------------------------
-- Order
------------------------------------------------------------

/-
  The entries of the repository come first, in the order in
  which they were added, and then the root rules by position.
-/
inductive PartBefore
    (grammar : Grammar) : Part → Part → Prop where
  | entries
      {x y : String}
      (hNames :
        grammar.repository.names.idxOf x <
          grammar.repository.names.idxOf y) :
      grammar.PartBefore (.entry x) (.entry y)
  | across
      {name : String}
      {position : Nat} :
      grammar.PartBefore (.entry name) (.pattern position)
  | patterns
      {x y : Nat}
      (hPositions : x < y) :
      grammar.PartBefore (.pattern x) (.pattern y)

/-
  Sites are ordered by their parts, and in the same part by
  their trails.
-/
inductive Before
    (grammar : Grammar) : Site → Site → Prop where
  | part
      {x y : Site}
      (hParts : grammar.PartBefore x.part y.part) :
      grammar.Before x y
  | trail
      {part : Part}
      {x y : Trail}
      (hTrails : x.Before y) :
      grammar.Before ⟨part, x⟩ ⟨part, y⟩

variable {grammar : Grammar}

instance : Std.Asymm grammar.PartBefore where
  asymm := by
    intro x y hBefore hAfter
    cases hBefore with
    | entries hLess =>
        cases hAfter with
        | entries hMore => exact Nat.lt_asymm hLess hMore
    | across => cases hAfter
    | patterns hLess =>
        cases hAfter with
        | patterns hMore => exact Nat.lt_asymm hLess hMore

instance : Std.Asymm grammar.Before where
  asymm := by
    intro x y hBefore hAfter
    cases hBefore with
    | part hLess =>
        cases hAfter with
        | part hMore => exact Std.Asymm.asymm _ _ hLess hMore
        | trail _ => exact Std.Asymm.asymm _ _ hLess hLess
    | trail hLess =>
        cases hAfter with
        | part hMore => exact Std.Asymm.asymm _ _ hMore hMore
        | trail hMore => exact Std.Asymm.asymm _ _ hLess hMore

/-
  The rule at a site has a property, and every other rule with
  the property is at a later site.
-/
structure IsFirst
    (grammar : Grammar)
    (holds : Rule → Prop)
    (site : Site)
    (rule : Rule) : Prop where
  found : grammar.at? site = some rule
  own : holds rule
  first :
    ∀ other later, grammar.at? other = some later →
      holds later → other = site ∨ grammar.Before site other

end Grammar

------------------------------------------------------------
-- Parts in Order
------------------------------------------------------------

namespace Grammar

variable {grammar : Grammar}

/- The rules of all parts. -/
def parts
    (grammar : Grammar) : List (Part × Rule) :=
  grammar.repository.entries.map
      (fun entry => (.entry entry.1, entry.2)) ++
    grammar.patterns.zipIdx.map
      fun item => (.pattern item.2, item.1)

/- The rules of all parts are keyed. -/
theorem keyed_of_mem_parts
    (hKeyed : grammar.Keyed)
    {entry : Part × Rule}
    (hEntry : entry ∈ grammar.parts) :
    entry.2.Keyed := by
  rcases List.mem_append.mp hEntry with hNamed | hRoot
  · rcases List.mem_map.mp hNamed with ⟨named, hMember, rfl⟩
    exact hKeyed.captures.1 named hMember
  · rcases List.mem_map.mp hRoot with ⟨item, hItem, rfl⟩
    exact
      hKeyed.captures.2 item.1
        (List.fst_mem_of_mem_zipIdx hItem)

theorem mem_parts_iff
    (hKeyed : grammar.Keyed)
    {part : Part}
    {rule : Rule} :
    (part, rule) ∈ grammar.parts ↔
      grammar.part? part = some rule := by
  rw [parts, List.mem_append, List.mem_map, List.mem_map]
  cases part with
  | entry name =>
      rw [part?, Repository.get?,
        lookup_eq_some_iff_mem hKeyed.names]
      simp
  | pattern position =>
      rw [part?, ← List.mk_mem_zipIdx_iff_getElem?]
      simp

/- Names that are distinct are in the order of their places. -/
theorem pairwise_idxOf
    {names : List String}
    (hDistinct : names.Nodup) :
    names.Pairwise fun x y =>
      names.idxOf x < names.idxOf y := by
  rw [List.pairwise_iff_getElem]
  intro i j hFirst hSecond hLess
  rw [hDistinct.idxOf_getElem i hFirst,
    hDistinct.idxOf_getElem j hSecond]
  exact hLess

/- The parts are in order. -/
theorem pairwise_parts
    (hKeyed : grammar.Keyed) :
    grammar.parts.Pairwise fun x y =>
      grammar.PartBefore x.1 y.1 := by
  rw [parts, List.pairwise_append]
  refine ⟨?_, ?_, ?_⟩
  · rw [List.pairwise_map]
    exact
      (List.pairwise_map.mp (pairwise_idxOf hKeyed.names)).imp
        .entries
  · rw [List.pairwise_map]
    exact (pairwise_zipIdx grammar.patterns).imp .patterns
  · intro x hNamed y hRoot
    rcases List.mem_map.mp hNamed with ⟨_, -, rfl⟩
    rcases List.mem_map.mp hRoot with ⟨_, -, rfl⟩
    exact .across

------------------------------------------------------------
-- Sites in Order
------------------------------------------------------------

/- The rules of a grammar, each with its site. -/
def sites
    (grammar : Grammar) : List (Site × Rule) :=
  grammar.parts.flatMap fun entry =>
    entry.2.trails.map fun inner =>
      (⟨entry.1, inner.1⟩, inner.2)

/- The sites lead to the rules at them. -/
theorem mem_sites_iff
    (hKeyed : grammar.Keyed)
    {site : Site}
    {rule : Rule} :
    (site, rule) ∈ grammar.sites ↔
      grammar.at? site = some rule := by
  rw [sites, List.mem_flatMap, at?, Option.bind_eq_some_iff]
  constructor
  · rintro ⟨⟨part, outer⟩, hPart, hInner⟩
    rcases List.mem_map.mp hInner with
      ⟨⟨trail, inner⟩, hTrail, hEqual⟩
    cases hEqual
    have hOuter := keyed_of_mem_parts hKeyed hPart
    exact
      ⟨outer, (mem_parts_iff hKeyed).mp hPart,
        (Rule.mem_trails_iff hOuter).mp hTrail⟩
  · rintro ⟨outer, hPart, hTrail⟩
    have hMember := (mem_parts_iff hKeyed).mpr hPart
    have hOuter := keyed_of_mem_parts hKeyed hMember
    have hInner := (Rule.mem_trails_iff hOuter).mpr hTrail
    exact ⟨_, hMember, List.mem_map.mpr ⟨_, hInner, rfl⟩⟩

/- The sites are in order. -/
theorem pairwise_sites
    (hKeyed : grammar.Keyed) :
    grammar.sites.Pairwise fun x y =>
      grammar.Before x.1 y.1 := by
  rw [sites, List.pairwise_flatMap]
  constructor
  · intro entry hEntry
    rw [List.pairwise_map]
    exact
      (Rule.pairwise_trails
        (keyed_of_mem_parts hKeyed hEntry)).imp .trail
  · refine (pairwise_parts hKeyed).imp ?_
    intro first second hBefore x hFirst y hSecond
    rcases List.mem_map.mp hFirst with ⟨_, -, rfl⟩
    rcases List.mem_map.mp hSecond with ⟨_, -, rfl⟩
    exact .part hBefore

/- A grammar is visited along its sites. -/
theorem visit_eq_map_sites
    (grammar : Grammar) :
    grammar.visit =
      grammar.sites.map fun entry =>
        (entry.1.path, entry.2) := by
  have hParts :
      grammar.visit =
        grammar.parts.flatMap fun entry =>
          entry.2.visit entry.1.path := by
    rw [visit, Rule.visitRules_eq_flatMap, parts,
      List.flatMap_append, List.flatMap_map, List.flatMap_map]
    rfl
  rw [hParts, sites, List.map_flatMap]
  refine List.flatMap_congr fun entry _ => ?_
  rw [Rule.visit_eq_map_trails, List.map_map]
  rfl

/- The first rule with a property is the first one listed. -/
theorem isFirst_iff
    (hKeyed : grammar.Keyed)
    {holds : Rule → Prop}
    {site : Site}
    {rule : Rule} :
    grammar.IsFirst holds site rule ↔
      ∃ earlier later,
        grammar.sites = earlier ++ (site, rule) :: later ∧
          holds rule ∧ ∀ entry ∈ earlier, ¬holds entry.2 := by
  have hOrder := pairwise_sites hKeyed
  constructor
  · rintro ⟨hFound, hHolds, hFirst⟩
    rcases List.append_of_mem
      ((mem_sites_iff hKeyed).mpr hFound) with
      ⟨earlier, later, hSites⟩
    refine ⟨earlier, later, hSites, hHolds, ?_⟩
    rintro ⟨other, inner⟩ hEarlier hInner
    rw [hSites] at hOrder
    have hBefore : grammar.Before other site :=
      (List.pairwise_append.mp hOrder).2.2 _ hEarlier _
        List.mem_cons_self
    have hMember : (other, inner) ∈ grammar.sites := by
      rw [hSites]
      exact List.mem_append_left _ hEarlier
    have hOther := (mem_sites_iff hKeyed).mp hMember
    rcases hFirst other inner hOther hInner with
      rfl | hAfter
    · exact Std.Asymm.asymm _ _ hBefore hBefore
    · exact Std.Asymm.asymm _ _ hBefore hAfter
  · rintro ⟨earlier, later, hSites, hHolds, hEarlier⟩
    have hMember : (site, rule) ∈ grammar.sites := by
      rw [hSites]
      exact List.mem_append_right _ List.mem_cons_self
    refine ⟨(mem_sites_iff hKeyed).mp hMember, hHolds, ?_⟩
    intro other inner hOther hInner
    have hListed := (mem_sites_iff hKeyed).mpr hOther
    rw [hSites, List.mem_append, List.mem_cons] at hListed
    rcases hListed with hBefore | hSame | hLater
    · exact absurd hInner (hEarlier _ hBefore)
    · exact Or.inl (congrArg Prod.fst hSame)
    · rw [hSites, List.pairwise_append, List.pairwise_cons]
        at hOrder
      exact Or.inr (hOrder.2.1.1 _ hLater)

end Grammar

end TextMate
