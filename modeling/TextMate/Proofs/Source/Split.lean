import Mathlib.Data.List.Nodup
import TextMate.Source.Units
import TextMate.Proofs.Source.Identifier

/-
  This file proves what the units of a repository are: one for
  each entry, in order, with an identifier of its own, and an
  index.  The paths of all files are distinct.

  Main declarations:
    * `splitEntries_ok`
    * `entryPath_injective`
    * `RepositoryUnits.IsSplit`
    * `RepositoryUnits.nodup_paths`
-/

namespace TextMate

namespace Source

------------------------------------------------------------
-- Units of Entries
------------------------------------------------------------

@[simp] theorem name_entryUnit
    (name : String)
    (rule : Rule) :
    (entryUnit name rule).name = name := by
  simp only [entryUnit]

@[simp] theorem identifier_entryUnit
    (name : String)
    (rule : Rule) :
    (entryUnit name rule).identifier = identifier name := by
  simp only [entryUnit]

@[simp] theorem path_entryUnit
    (name : String)
    (rule : Rule) :
    (entryUnit name rule).unit.path =
      entryPath (identifier name ++ ".rs") := by
  simp only [entryUnit]

/- The identifiers of entries, in order. -/
def entryIdentifiers
    (entries : List (String × Rule)) : List String :=
  entries.map fun entry => identifier entry.1

/- They are the identifiers for the names of a repository. -/
theorem entryIdentifiers_entries
    (repository : Repository) :
    entryIdentifiers repository.entries =
      repository.names.map identifier := by
  rw [entryIdentifiers, Repository.names, List.map_map]
  rfl

/- The names of entries with their identifiers, in order. -/
def entryLinks
    (entries : List (String × Rule)) : Links :=
  entries.map fun entry => (entry.1, identifier entry.1)

/-
  Where entries get units, each has its own, and their
  identifiers are distinct and were not taken.
-/
theorem splitEntries_ok
    {taken : List String}
    {entries : List (String × Rule)}
    {units : List EntryUnit}
    (hUnits : splitEntries taken entries = .ok units) :
    units =
        (entries.map fun entry =>
          entryUnit entry.1 entry.2) ∧
      (entryIdentifiers entries).Nodup ∧
        ∀ name ∈ entryIdentifiers entries, name ∉ taken := by
  induction entries generalizing taken units with
  | nil =>
      cases hUnits
      exact
        ⟨rfl, List.nodup_nil,
          fun _ hNone => absurd hNone List.not_mem_nil⟩
  | cons entry entries ih =>
      rcases entry with ⟨name, rule⟩
      simp only [splitEntries, identifier_entryUnit] at hUnits
      split at hUnits
      · cases hUnits
      · rename_i hFree
        split at hUnits
        · cases hUnits
        · rename_i others hOthers
          cases hUnits
          rcases ih hOthers with ⟨rfl, hDistinct, hNotTaken⟩
          have hName : identifier name ∉ taken := fun hTaken =>
            hFree (List.contains_iff_mem.mpr hTaken)
          refine ⟨rfl, List.nodup_cons.mpr ⟨?_, hDistinct⟩, ?_⟩
          · intro hAgain
            exact hNotTaken _ hAgain List.mem_cons_self
          · intro other hOther
            rcases List.mem_cons.mp hOther with rfl | hLater
            · exact hName
            · intro hTaken
              exact
                hNotTaken other hLater
                  (List.mem_cons_of_mem _ hTaken)

------------------------------------------------------------
-- Paths
------------------------------------------------------------

/- Files with different names have different paths. -/
theorem entryPath_injective :
    Function.Injective entryPath := by
  intro first second hPath
  exact (String.append_right_inj _).mp hPath

/- Identifiers that differ have files that differ. -/
theorem unitFileName_injective :
    Function.Injective fun name : String => name ++ ".rs" := by
  intro first second hName
  exact (String.append_left_inj _).mp hName

/- No identifier has the file of the index. -/
theorem identifier_ne_index
    (name : String) :
    identifier name ++ ".rs" ≠ primaryName := by
  intro hIndex
  have hMod : identifier name = "mod" :=
    unitFileName_injective hIndex
  have hName :=
    isName_of_isNameWord (isNameWord_identifier name)
  rw [hMod] at hName
  revert hName
  decide

/- No file of an entry is the primary file. -/
theorem entryPath_ne_primary
    (file : String) :
    entryPath file ≠ primaryName := by
  intro hPrimary
  have hFirst :=
    congrArg (fun path => path.toList.head?) hPrimary
  simp [entryPath, repositoryFolder, primaryName] at hFirst

end Source

------------------------------------------------------------
-- Units of Repositories
------------------------------------------------------------

namespace RepositoryUnits

/- What the units of a repository are. -/
structure IsSplit
    (repository : Repository)
    (units : RepositoryUnits) : Prop where
  entries_eq :
    units.entries =
      repository.entries.map fun entry =>
        Source.entryUnit entry.1 entry.2
  index_eq :
    units.index =
      ⟨Source.entryPath Source.primaryName,
        Source.indexText
          (Source.entryIdentifiers repository.entries)⟩
  distinct :
    (Source.entryIdentifiers repository.entries).Nodup

theorem isSplit_of_split
    {repository : Repository}
    {units : RepositoryUnits}
    (hSplit : repository.split = .ok units) :
    units.IsSplit repository := by
  unfold Repository.split at hSplit
  split at hSplit
  · cases hSplit
  · rename_i entries hEntries
    cases hSplit
    rcases Source.splitEntries_ok hEntries with
      ⟨hUnits, hDistinct, -⟩
    refine ⟨hUnits, ?_, hDistinct⟩
    simp only [hUnits, List.map_map, Function.comp_def,
      Source.identifier_entryUnit, Source.entryIdentifiers]

namespace IsSplit

variable {repository : Repository}
variable {units : RepositoryUnits}
variable (hSplit : units.IsSplit repository)

include hSplit

/- The links are the names with their identifiers. -/
theorem links_eq :
    units.links = Source.entryLinks repository.entries := by
  simp only [links, hSplit.entries_eq, List.map_map,
    Function.comp_def, Source.name_entryUnit,
    Source.identifier_entryUnit, Source.entryLinks]

/- No name is used twice. -/
theorem nodup_names : repository.names.Nodup := by
  have hDistinct := hSplit.distinct
  rw [Source.entryIdentifiers_entries] at hDistinct
  exact hDistinct.of_map _

/- The paths of the units are those of their identifiers. -/
theorem paths_eq :
    units.all.map SourceUnit.path =
      ((Source.entryIdentifiers repository.entries).map
          fun name => Source.entryPath (name ++ ".rs")) ++
        [Source.entryPath Source.primaryName] := by
  simp only [all, List.map_append, hSplit.entries_eq,
    hSplit.index_eq, List.map_map, Function.comp_def,
    Source.path_entryUnit, Source.entryIdentifiers,
    List.map_cons, List.map_nil]

/- The paths of all files are distinct. -/
theorem nodup_paths :
    (Source.primaryName ::
      units.all.map SourceUnit.path).Nodup := by
  rw [hSplit.paths_eq]
  have hUnits :
      ((Source.entryIdentifiers repository.entries).map
        fun name => Source.entryPath (name ++ ".rs")).Nodup :=
    hSplit.distinct.map
      (Source.entryPath_injective.comp
        Source.unitFileName_injective)
  refine List.nodup_cons.mpr ⟨?_, ?_⟩
  · intro hPrimary
    rcases List.mem_append.mp hPrimary with hUnit | hIndex
    · rcases List.mem_map.mp hUnit with ⟨name, -, hPath⟩
      exact Source.entryPath_ne_primary _ hPath
    · exact
        Source.entryPath_ne_primary _
          (List.mem_singleton.mp hIndex).symm
  · refine List.nodup_append.mpr
      ⟨hUnits, List.nodup_singleton _, ?_⟩
    intro path hUnit index hIndex hSame
    rw [List.mem_singleton.mp hIndex] at hSame
    rcases List.mem_map.mp hUnit with ⟨name, hName, rfl⟩
    rcases List.mem_map.mp hName with ⟨entry, -, rfl⟩
    exact
      Source.identifier_ne_index entry.1
        (Source.entryPath_injective hSame)

end IsSplit

end RepositoryUnits

end TextMate
