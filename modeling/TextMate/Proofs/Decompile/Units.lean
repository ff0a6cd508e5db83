import TextMate.Proofs.Batch
import TextMate.Proofs.Decompile.Outcome
import TextMate.Proofs.Disk.Tree
import TextMate.Proofs.Source.Split

/-
  This file proves what is in a folder to which units were
  written: their files, and nothing else.

  The paths of units have one name or two, and no unit is on the
  way to another, since their paths are distinct and the folder
  of the entries is no unit.

  Main declarations:
    * `Source.IsUnitPath`
    * `Grammar.units_eq_ok`
    * `SourceUnit.file`
    * `holdsJust_of_completes`
-/

namespace TextMate

------------------------------------------------------------
-- Paths of Units
------------------------------------------------------------

namespace Source

/- An identifier holds no slash. -/
theorem slash_not_mem_identifier
    (name : String) :
    '/' ∉ (identifier name).toList := by
  intro hSlash
  have hChar := isFormChar_of_mem_identifier hSlash
  revert hChar
  decide

/- The file of an identifier has a name. -/
theorem isName_unitFile
    (name : String) :
    Path.IsName (identifier name ++ ".rs") := by
  have hLast :
      (identifier name ++ ".rs").toList.getLast? = some 's' := by
    simp [List.getLast?_append]
  constructor
  · rw [String.toList_append, List.mem_append, not_or]
    exact ⟨slash_not_mem_identifier name, by decide⟩
  all_goals
    intro hName
    rw [hName] at hLast
    revert hLast
    decide

/- A path of a unit, with the names that it goes down by. -/
inductive IsUnitPath : String → List String → Prop where
  | primary :
      IsUnitPath primaryName [primaryName]
  | entry
      {file : String}
      (hFile : Path.IsName file) :
      IsUnitPath (entryPath file) [repositoryFolder, file]

namespace IsUnitPath

variable {path : String}
variable {names : List String}

theorem isRelative
    (hPath : IsUnitPath path names) :
    Path.isAbsolute path = false := by
  cases hPath with
  | primary => rfl
  | entry hFile =>
      simp [entryPath, repositoryFolder, Path.isAbsolute]

theorem steps_eq
    (hPath : IsUnitPath path names) :
    Path.steps path = names.map .down := by
  cases hPath with
  | primary => rfl
  | entry hFile =>
      have hFolder : Path.IsName repositoryFolder := by
        decide
      rw [entryPath, Path.steps_append_slash, hFolder.steps_eq,
        hFile.steps_eq]
      rfl

theorem notEmpty
    (hPath : IsUnitPath path names) :
    names ≠ [] := by
  cases hPath <;> exact List.cons_ne_nil _ _

/- No unit is on the way to another one. -/
theorem eq_of_prefix
    (hPath : IsUnitPath path names)
    {other : String}
    {others : List String}
    (hOther : IsUnitPath other others)
    (hWay : names <+: others) :
    path = other := by
  cases hPath with
  | primary =>
      cases hOther with
      | primary => rfl
      | entry _ =>
          rw [List.cons_prefix_cons] at hWay
          exact absurd hWay.1 (by decide)
  | entry _ =>
      cases hOther with
      | primary =>
          rw [List.cons_prefix_cons] at hWay
          exact absurd hWay.1 (by decide)
      | entry _ =>
          rw [List.cons_prefix_cons, List.cons_prefix_cons]
            at hWay
          rw [hWay.2.1]

end IsUnitPath

end Source

------------------------------------------------------------
-- Units of Grammars
------------------------------------------------------------

open Source

/- The paths of the units of a repository, if it has an entry. -/
def Repository.unitPaths
    (repository : Repository) : List String :=
  if repository.isEmpty then []
  else
    (repository.names.map fun name =>
        entryPath (identifier name ++ ".rs")) ++
      [entryPath primaryName]

/- The units of a grammar have paths of their own. -/
theorem Grammar.units_eq_ok
    {grammar : Grammar}
    {units : List SourceUnit}
    (hUnits : grammar.units = .ok units) :
    units.map SourceUnit.path =
        primaryName :: grammar.repository.unitPaths ∧
      (units.map SourceUnit.path).Nodup := by
  unfold Grammar.units at hUnits
  split at hUnits
  · cases hUnits
  · rename_i split hSplit
    cases hUnits
    have hIsSplit := RepositoryUnits.isSplit_of_split hSplit
    have hPaths := hIsSplit.paths_eq
    have hNodup := hIsSplit.nodup_paths
    unfold Repository.unitPaths
    cases grammar.repository.isEmpty with
    | true => simp
    | false =>
        refine ⟨?_, hNodup⟩
        simp only [List.map_cons, Bool.false_eq_true, if_false,
          hPaths, entryIdentifiers, Repository.names,
          List.map_map, Function.comp_def]

/- They are paths of units. -/
theorem Repository.isUnitPath_of_mem
    {repository : Repository}
    {path : String}
    (hPath : path ∈ primaryName :: repository.unitPaths) :
    ∃ names, IsUnitPath path names := by
  have hPrimary : Path.IsName primaryName := by
    decide
  rcases List.mem_cons.mp hPath with rfl | hUnit
  · exact ⟨_, .primary⟩
  · unfold unitPaths at hUnit
    split at hUnit
    · cases hUnit
    · rcases List.mem_append.mp hUnit with hEntry | hIndex
      · rcases List.mem_map.mp hEntry with ⟨name, -, rfl⟩
        exact ⟨_, .entry (isName_unitFile name)⟩
      · rw [List.mem_singleton.mp hIndex]
        exact ⟨_, .entry hPrimary⟩

------------------------------------------------------------
-- Files of Units
------------------------------------------------------------

/- The file of a unit: the names of its path, and its text. -/
def SourceUnit.file
    (unit : SourceUnit) : List String × String :=
  (Path.descent (Path.steps unit.path), unit.text)

/- The names of the file of a unit are those of its path. -/
theorem SourceUnit.isUnitPath
    {unit : SourceUnit}
    (hUnit : ∃ names, IsUnitPath unit.path names) :
    IsUnitPath unit.path unit.file.1 := by
  rcases hUnit with ⟨names, hPath⟩
  rwa [file, hPath.steps_eq, Path.descent_map_down]

/- Units with distinct paths have files apart from each other. -/
theorem pairwise_apart_of_nodup
    {units : List SourceUnit}
    (hUnits :
      ∀ unit ∈ units, ∃ names, IsUnitPath unit.path names)
    (hDistinct : (units.map SourceUnit.path).Nodup) :
    (units.map SourceUnit.file).Pairwise Disk.Apart := by
  rw [List.pairwise_map]
  refine
    (List.pairwise_map.mp hDistinct).imp_of_mem
      fun {first second} hFirst hSecond hPaths => ?_
  have hOne := SourceUnit.isUnitPath (hUnits first hFirst)
  have hTwo := SourceUnit.isUnitPath (hUnits second hSecond)
  exact
    ⟨fun hWay => hPaths (hOne.eq_of_prefix hTwo hWay),
      fun hWay => hPaths (hTwo.eq_of_prefix hOne hWay).symm⟩

/-
  Units that are written to a folder of files are files of it
  afterwards, if they are apart from those and each other.
-/
theorem holdsJust_of_completes
    {outFolder : String}
    {names : List String}
    {units : List SourceUnit}
    {files : List (List String × String)}
    {before after : Disk}
    (hOut : Path.LeadsDown outFolder names)
    (hUnits :
      ∀ unit ∈ units, ∃ names, IsUnitPath unit.path names)
    (hApart :
      (files ++ units.map SourceUnit.file).Pairwise Disk.Apart)
    (hBefore :
      before.HoldsJust (before.workFolder ++ names) files)
    (hRun : Completes (unitJobs outFolder units) before after) :
    Disk.Confined (before.workFolder ++ names) before after ∧
      after.HoldsJust (before.workFolder ++ names)
        (files ++ units.map SourceUnit.file) := by
  induction units generalizing files before with
  | nil =>
      cases hRun
      rw [List.map_nil, List.append_nil]
      exact ⟨.refl _ _, hBefore⟩
  | cons unit units ih =>
      cases hRun with
      | @cons _ _ _ between _ hJob hRest =>
          have hUnit :=
            SourceUnit.isUnitPath
              (hUnits unit List.mem_cons_self)
          have hPath :=
            hOut.join hUnit.isRelative hUnit.steps_eq
          have hOwn :
              ∀ file ∈ files, Disk.Apart file unit.file :=
            fun file hFile =>
              (List.pairwise_append.mp hApart).2.2 file hFile
                unit.file List.mem_cons_self
          rcases
            Disk.holdsJust_writeDeep hPath hUnit.notEmpty hOwn
              hBefore hJob with ⟨hConfined, hHolds⟩
          rw [List.map_cons, List.append_cons] at hApart ⊢
          have hWork := hConfined.workFolder
          rw [← hWork] at hHolds
          rcases
            ih (fun other hOther =>
                hUnits other (List.mem_cons_of_mem _ hOther))
              hApart hHolds hRest with ⟨hOthers, hAll⟩
          rw [hWork] at hOthers hAll
          exact ⟨hConfined.trans hOthers, hAll⟩

end TextMate
