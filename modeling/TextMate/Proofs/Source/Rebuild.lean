import TextMate.Proofs.Rule.Visit
import TextMate.Proofs.Source.GrammarValue
import TextMate.Proofs.Source.Linking

/-
  This file proves that the generated source of a grammar
  rebuilds it: the primary file, with the units of the
  repository and their index, comes to the grammar, where each
  pattern is read back from its text.

  Main declarations:
    * `primaryUnit`
    * `HoldSources`
    * `evaluateEntry_of_hold`
    * `evaluate_splitSources`
    * `evaluate_grammarUnits`
-/

namespace TextMate

namespace Source

------------------------------------------------------------
-- The Primary File
------------------------------------------------------------

/- The primary file of a grammar whose entries are linked. -/
def primaryUnit
    (grammar : Grammar)
    (links : Links) : SourceUnit :=
  ⟨primaryName, grammarText grammar links⟩

/- The function of the primary file. -/
def grammarFunction
    (grammar : Grammar)
    (links : Links) : Function :=
  ⟨"grammar", .result .grammar, ofGrammar grammar links⟩

/- The module of the entries, if there are any. -/
def grammarModules
    (links : Links) : List Declaration :=
  if links.isEmpty then [] else [.submodule "repository" true]

/- The statements of the primary file. -/
def primaryStatements
    (grammar : Grammar)
    (links : Links) : List Statement :=
  functionStatements (grammarFunction grammar links)
    (grammarModules links)

theorem areModules_grammarModules
    (links : Links) :
    AreModules (grammarModules links) := by
  intro declaration hMember
  unfold grammarModules at hMember
  split at hMember
  · exact absurd hMember List.not_mem_nil
  · exact
      ⟨"repository", true, by decide,
        List.mem_singleton.mp hMember⟩

/- The primary file is read as its statements. -/
theorem readSource_primaryUnit
    (grammar : Grammar)
    {links : Links}
    (hLinks : ∀ link ∈ links, isNameWord link.2 = true) :
    readSource (primaryUnit grammar links).text =
      some (primaryStatements grammar links) := by
  have hName : isNameWord "grammar" = true := by decide
  rw [primaryUnit, grammarText_eq]
  exact
    readSource_ofFunction (areModules_grammarModules links) hName
      (isNamed_ofGrammar grammar hLinks)

/- The primary file has the module of the entries, once. -/
theorem hasSubmodule_primaryStatements
    (grammar : Grammar)
    {links : Links}
    (hSome : links ≠ []) :
    hasSubmodule (primaryStatements grammar links) "repository" =
      true := by
  have hModules :
      grammarModules links = [.submodule "repository" true] := by
    rw [grammarModules, if_neg]
    rwa [List.isEmpty_iff]
  rw [primaryStatements, hModules]
  rfl

------------------------------------------------------------
-- Files of a Grammar
------------------------------------------------------------

/-
  Files hold the sources of a grammar: its primary file and,
  if it has an entry, the units of its repository.
-/
structure HoldSources
    (files : List SourceUnit)
    (grammar : Grammar)
    (units : RepositoryUnits) : Prop where
  distinct : (files.map SourceUnit.path).Nodup
  primary : primaryUnit grammar units.links ∈ files
  units :
    grammar.repository.entries ≠ [] →
      ∀ unit ∈ units.all, unit ∈ files

section Hold

variable {files : List SourceUnit}
variable {grammar : Grammar}
variable {units : RepositoryUnits}
variable (hSplit : units.IsSplit grammar.repository)
variable (hHold : HoldSources files grammar units)
variable {entry : String × Rule}
variable (hEntry : entry ∈ grammar.repository.entries)

include hSplit hHold hEntry

/- The index is found where there is an entry. -/
theorem fileAt?_index :
    fileAt? files "repository/mod.rs" =
      some
        (indexStatements
          (entryIdentifiers grammar.repository.entries)) := by
  have hIndex : units.index ∈ files := by
    apply hHold.units (List.ne_nil_of_mem hEntry)
    exact List.mem_append_right _ List.mem_cons_self
  have hFound := fileAt?_of_mem hHold.distinct hIndex
  rw [hSplit.index_eq] at hFound
  have hNames :
      ∀ name ∈ entryIdentifiers grammar.repository.entries,
        isNameWord name = true := by
    intro name hName
    rcases List.mem_map.mp hName with ⟨other, -, rfl⟩
    exact isNameWord_identifier other.1
  exact hFound.trans (readSource_indexText hNames)

/- The unit of an entry is found by its identifier. -/
theorem unitOf?_entry :
    unitOf? files (identifier entry.1) =
      some
        (functionStatements
          (unitFunction (identifier entry.1) entry.2) []) := by
  let unit := (entryUnit entry.1 entry.2).unit
  have hUnit : unit ∈ files := by
    apply hHold.units (List.ne_nil_of_mem hEntry)
    apply List.mem_append_left
    rw [hSplit.entries_eq, List.map_map]
    exact List.mem_map_of_mem hEntry
  have hFound := fileAt?_of_mem hHold.distinct hUnit
  have hPath :
      unit.path =
        "repository/" ++ identifier entry.1 ++ ".rs" := by
    rw [String.append_assoc]
    rfl
  have hName :
      identifier entry.1 ∈
        entryIdentifiers grammar.repository.entries :=
    List.mem_map_of_mem hEntry
  have hRead :
      readSource unit.text =
        some
          (functionStatements
            (unitFunction (identifier entry.1) entry.2) []) :=
    readSource_unitText (isNameWord_identifier entry.1) entry.2
  rw [hPath, hRead] at hFound
  rw [unitOf?, fileAt?_index hSplit hHold hEntry]
  simp only [Option.bind_eq_bind, Option.bind_some,
    source?_indexStatements hSplit.distinct hName,
    hasSubmodule_indexStatements hSplit.distinct hName, if_true,
    hFound]

/- The primary file refers to the rule of an entry. -/
theorem evaluateEntry_entry
    (hKeyed : entry.2.Keyed) :
    evaluateEntry files (primaryStatements grammar units.links)
        (identifier entry.1) =
      .ok (.rule (entry.2.mapPatterns .reread)) := by
  have hLinks : units.links ≠ [] := by
    rw [hSplit.links_eq, entryLinks]
    exact
      fun hNone =>
        List.ne_nil_of_mem hEntry (List.map_eq_nil_iff.mp hNone)
  have hUnit := evaluateUnit_of_rule hKeyed (identifier entry.1)
  rw [evaluateEntry,
    if_pos (hasSubmodule_primaryStatements grammar hLinks),
    unitOf?_entry hSplit hHold hEntry]
  simp only [orStuck, bind, Except.bind, hUnit]

end Hold

/- Files that hold the sources of a grammar rebuild it. -/
theorem evaluate_of_hold
    {files : List SourceUnit}
    {grammar : Grammar}
    {units : RepositoryUnits}
    (hKeyed : grammar.Every fun _ value => value.Keyed)
    (hSplit : units.IsSplit grammar.repository)
    (hHold : HoldSources files grammar units) :
    evaluate files =
      some (.ok (grammar.mapPatterns .reread)) := by
  let primary := primaryStatements grammar units.links
  have hLinkNames :
      ∀ link ∈ units.links, isNameWord link.2 = true := by
    simp only [hSplit.links_eq, entryLinks, List.forall_mem_map]
    exact fun entry _ => isNameWord_identifier entry.1
  have hPrimary : fileAt? files "mod.rs" = some primary :=
    (fileAt?_of_mem hHold.distinct hHold.primary).trans
      (readSource_primaryUnit grammar hLinkNames)
  have hModules := areModules_grammarModules units.links
  have hCovers :
      (primaryNames files primary).Covers
        (grammarFunction grammar units.links).items :=
    covers_functionStatements hModules rfl
  have hGrammar : "Grammar" ∈ importsOf primary :=
    hCovers .grammar List.mem_cons_self
  have hError : "Error" ∈ importsOf primary :=
    hCovers .error (List.mem_cons_of_mem _ List.mem_cons_self)
  have hEntries :
      ∀ entry ∈ grammar.repository.entries,
        GivesEntry (primaryNames files primary) entry :=
    fun entry hEntry =>
      evaluateEntry_entry hSplit hHold hEntry
        (hKeyed.1 entry hEntry)
  have hBody :
      (ofGrammar grammar units.links).term.evaluate
          (primaryNames files primary) =
        .ok
          (.succeeded
            (.grammar (grammar.mapPatterns .reread))) :=
    evaluate_ofGrammar hKeyed.2 hSplit.nodup_names hEntries
      hSplit.links_eq hCovers.cons.2.cons.2
  have hFunction :
      functionOf? primary "grammar" =
        some
          (.result "Grammar" "Error",
            (ofGrammar grammar units.links).term) :=
    functionOf?_functionStatements hModules
  rw [evaluate, hPrimary]
  simp only [Option.bind_eq_bind, Option.bind_some,
    evaluatePrimary, hFunction, hGrammar, hError, and_self,
    if_true, hBody]

------------------------------------------------------------
-- Rebuilding
------------------------------------------------------------

/-
  The generated source of a grammar whose repository is split
  comes to the grammar, with each pattern read back from its
  text.
-/
theorem evaluate_splitSources
    {grammar : Grammar}
    {units : RepositoryUnits}
    (hKeyed : grammar.Every fun _ value => value.Keyed)
    (hSplit : grammar.repository.split = .ok units) :
    evaluate (primaryUnit grammar units.links :: units.all) =
      some (.ok (grammar.mapPatterns .reread)) := by
  have hUnits := RepositoryUnits.isSplit_of_split hSplit
  apply evaluate_of_hold hKeyed hUnits
  refine ⟨hUnits.nodup_paths, List.mem_cons_self, ?_⟩
  intro _ unit hUnit
  exact List.mem_cons_of_mem _ hUnit

/- A plain text is kept in front of a pattern with options. -/
def markedRule : Rule :=
  { Rule.empty with
    beginPattern := some (.verbatim "\"#\r")
    endPattern := some (.compiled ⟨"(?i)\\)\"", .none⟩)
    endCaptures := some [(0, .empty), (4294967295, .empty)]
    patterns := some [{ Rule.empty with captures := some [] }] }

/- A grammar with the rule as an entry, behind another. -/
def markedGrammar : Grammar :=
  { Grammar.empty with
    name := "A \"b\""
    patterns := [{ Rule.empty with includeTarget := some "#x" }]
    repository :=
      ⟨[("self", .empty), ("Base Rule", markedRule)]⟩
    extra :=
      [("fileTypes", .list ["a", "b"]), ("uuid", .text "")] }

/- The units of the two entries, with the index. -/
def markedUnits : RepositoryUnits :=
  { entries :=
      [entryUnit "self" .empty,
        entryUnit "Base Rule" markedRule]
    index :=
      ⟨"repository/mod.rs",
        indexText ["self_", "base_rule"]⟩ }

/- The rule with the options told from the source again. -/
def rereadMarkedRule : Rule :=
  { markedRule with
    endPattern :=
      some (.compiled ⟨"\\)\"", ⟨true, false, false⟩⟩) }

/- The marked grammar is rebuilt, but for these options. -/
theorem evaluate_splitSources_markedGrammar :
    markedGrammar.repository.split = .ok markedUnits ∧
      evaluate
          (primaryUnit markedGrammar markedUnits.links ::
            markedUnits.all) =
        some
          (.ok
            { markedGrammar with
              repository :=
                ⟨[("self", .empty),
                  ("Base Rule", rereadMarkedRule)]⟩ }) := by
  have hKeyed :
      markedGrammar.Every fun _ value => value.Keyed := by
    decide
  have hSplit :
      markedGrammar.repository.split = .ok markedUnits := rfl
  exact ⟨hSplit, evaluate_splitSources hKeyed hSplit⟩

/- The units of a grammar come to it in the same way. -/
theorem evaluate_grammarUnits
    {grammar : Grammar}
    {files : List SourceUnit}
    (hKeyed : grammar.Every fun _ value => value.Keyed)
    (hFiles : grammar.units = .ok files) :
    evaluate files =
      some (.ok (grammar.mapPatterns .reread)) := by
  unfold Grammar.units at hFiles
  split at hFiles
  · cases hFiles
  · rename_i units hSplit
    cases hFiles
    have hUnits := RepositoryUnits.isSplit_of_split hSplit
    have hPaths := hUnits.nodup_paths
    apply evaluate_of_hold hKeyed hUnits
    refine ⟨?_, List.mem_cons_self, ?_⟩
    · split
      · exact List.nodup_cons.mpr
          ⟨List.not_mem_nil, List.nodup_nil⟩
      · exact hPaths
    · intro hSome unit hUnit
      have hEntries :
          ¬grammar.repository.isEmpty = true := fun hNone =>
        hSome (List.isEmpty_iff.mp hNone)
      rw [if_neg hEntries]
      exact List.mem_cons_of_mem _ hUnit

end Source

end TextMate
