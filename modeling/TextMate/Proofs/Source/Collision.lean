import TextMate.Proofs.Source.Linking

/-
  This file proves that a repository is split completely or not
  at all.

  The split fails just if two names have the same identifier,
  and then at the first entry whose identifier is taken.
  Otherwise each entry has a unit of its own, the index brings
  in each identifier once, and no two files have paths that
  are equal up to the case of letters: all letters of a path
  are lower case letters of ASCII.

  Main declarations:
    * `IsCollision`
    * `isCollision_of_splitEntries`
    * `isPathChar_of_mem_path`
    * `RepositoryUnits.IsComplete`
    * `split_isComplete_or_collides`
-/

namespace TextMate

namespace Source

open Text (isLower isUpper isDigit)

------------------------------------------------------------
-- Collisions
------------------------------------------------------------

/-
  The name of the first entry whose identifier is taken by an
  entry before it.
-/
def IsCollision
    (entries : List (String × Rule))
    (name : String) : Prop :=
  ∃ before rule after,
    entries = before ++ (name, rule) :: after ∧
      (entryIdentifiers before).Nodup ∧
      identifier name ∈ entryIdentifiers before

/-
  A split that fails does so at the first entry whose
  identifier is taken, by an entry before it or beforehand.
-/
theorem exists_taken_of_splitEntries
    {taken : List String}
    {entries : List (String × Rule)}
    {error : Error}
    (hError : splitEntries taken entries = .error error) :
    ∃ before name rule after,
      entries = before ++ (name, rule) :: after ∧
        (entryIdentifiers before).Nodup ∧
        (∀ other ∈ entryIdentifiers before, other ∉ taken) ∧
        identifier name ∈ taken ++ entryIdentifiers before ∧
        error = .repositoryCollision name := by
  induction entries generalizing taken with
  | nil => cases hError
  | cons entry rest ih =>
      rcases entry with ⟨name, rule⟩
      simp only [splitEntries, identifier_entryUnit] at hError
      by_cases hTaken : taken.contains (identifier name) = true
      · rw [if_pos hTaken] at hError
        cases hError
        have hName : identifier name ∈ taken :=
          List.contains_iff_mem.mp hTaken
        exact
          ⟨[], name, rule, rest, rfl, List.nodup_nil,
            fun _ hNone => absurd hNone List.not_mem_nil,
            List.mem_append_left _ hName, rfl⟩
      · rw [if_neg hTaken] at hError
        have hName : identifier name ∉ taken :=
          fun hMember => hTaken (List.contains_iff_mem.mpr hMember)
        cases hRest :
            splitEntries (identifier name :: taken) rest with
        | ok units =>
            rw [hRest] at hError
            cases hError
        | error other =>
            rw [hRest] at hError
            cases hError
            rcases ih hRest with
              ⟨before, last, lastRule, after, rfl, hDistinct,
                hFree, hLast, rfl⟩
            refine
              ⟨(name, rule) :: before, last, lastRule, after, rfl,
                ?_, ?_, ?_, rfl⟩
            · refine List.nodup_cons.mpr ⟨?_, hDistinct⟩
              intro hAgain
              exact hFree _ hAgain List.mem_cons_self
            · intro other hOther
              rcases List.mem_cons.mp hOther with rfl | hLater
              · exact hName
              · intro hMember
                exact
                  hFree other hLater
                    (List.mem_cons_of_mem _ hMember)
            · exact List.perm_middle.mem_iff.mpr hLast

/- A split of a repository that fails does so at a collision. -/
theorem isCollision_of_splitEntries
    {entries : List (String × Rule)}
    {error : Error}
    (hError : splitEntries [] entries = .error error) :
    ∃ name, IsCollision entries name ∧
      error = .repositoryCollision name := by
  rcases exists_taken_of_splitEntries hError with
    ⟨before, name, rule, after, hEntries, hDistinct, -, hTaken,
      hText⟩
  exact
    ⟨name, ⟨before, rule, after, hEntries, hDistinct, hTaken⟩,
      hText⟩

/- At a collision two names have the same identifier. -/
theorem IsCollision.not_nodup
    {entries : List (String × Rule)}
    {name : String}
    (hCollision : IsCollision entries name) :
    ¬(entryIdentifiers entries).Nodup := by
  rcases hCollision with ⟨before, rule, after, rfl, -, hTaken⟩
  intro hDistinct
  rw [entryIdentifiers, List.map_append, List.map_cons,
    List.nodup_append] at hDistinct
  exact
    hDistinct.2.2 _ hTaken _ List.mem_cons_self rfl

------------------------------------------------------------
-- Case of Letters
------------------------------------------------------------

/- The characters of the paths of units. -/
def isPathChar
    (c : Char) : Bool :=
  isFormChar c || c == '/' || c == '.'

/- Such a character is of ASCII, and is its own lower case. -/
theorem toLower_of_isPathChar
    {c : Char}
    (hPath : isPathChar c = true) :
    c.toLower = c ∧ c.toNat < 128 := by
  have hTable :
      ∀ code : Fin 128,
        isPathChar (Char.ofNat code) = true →
          (Char.ofNat code).toLower = Char.ofNat code := by
    decide +kernel
  have hSmall : c.toNat < 128 := by
    simp only [isPathChar, isFormChar, isLower, isDigit,
      Bool.or_eq_true, Bool.and_eq_true, decide_eq_true_eq,
      beq_iff_eq] at hPath
    rcases hPath with
      (((⟨-, hLast⟩ | ⟨-, hLast⟩) | rfl) | rfl) | rfl
    · have hCode : c.toNat ≤ 122 := hLast
      omega
    · have hCode : c.toNat ≤ 57 := hLast
      omega
    all_goals decide
  refine ⟨?_, hSmall⟩
  have hLower := hTable ⟨c.toNat, hSmall⟩
  rw [Fin.val_mk, Char.ofNat_toNat] at hLower
  exact hLower hPath

/- A text of such characters is its own lower case. -/
theorem toLower_of_forall_isPathChar
    {text : String}
    (hChars : ∀ c ∈ text.toList, isPathChar c = true) :
    text.toLower = text := by
  have hMap : text.toLower = text.map Char.toLower := rfl
  rw [hMap, ← String.toList_inj, String.toList_map]
  refine (List.map_congr_left ?_).trans (List.map_id _)
  intro c hMember
  exact (toLower_of_isPathChar (hChars c hMember)).1

/- The paths of units are made of such characters. -/
theorem isPathChar_of_mem_entryPath
    {file : String}
    (hFile :
      ∀ c ∈ file.toList, isPathChar c = true) :
    ∀ c ∈ (entryPath file).toList, isPathChar c = true := by
  have hFolder :
      (repositoryFolder ++ "/").toList.all isPathChar = true := by
    decide
  intro c hMember
  rw [entryPath, String.toList_append] at hMember
  rcases List.mem_append.mp hMember with hFirst | hLast
  · exact List.all_eq_true.mp hFolder c hFirst
  · exact hFile c hLast

/- So is the name of the file of a unit. -/
theorem isPathChar_of_mem_unitFile
    (name : String) :
    ∀ c ∈ (identifier name ++ ".rs").toList,
      isPathChar c = true := by
  have hEnding : ".rs".toList.all isPathChar = true := by
    decide
  intro c hMember
  rw [String.toList_append] at hMember
  rcases List.mem_append.mp hMember with hFirst | hLast
  · have hForm := isFormChar_of_mem_identifier hFirst
    rw [isPathChar, hForm]
    rfl
  · exact List.all_eq_true.mp hEnding c hLast

end Source

------------------------------------------------------------
-- Complete Splits
------------------------------------------------------------

open Source

namespace RepositoryUnits

/-
  Each entry of a repository has one unit, in order, with its
  name and the identifier for it.  The index brings in each of
  the identifiers, and no two paths are equal, even if the case
  of letters does not count.
-/
structure IsComplete
    (repository : Repository)
    (units : RepositoryUnits) : Prop where
  entries_eq :
    units.entries =
      repository.entries.map fun entry =>
        { name := entry.1
          identifier := identifier entry.1
          unit :=
            { path :=
                "repository/" ++ identifier entry.1 ++ ".rs"
              text :=
                unitText (identifier entry.1) entry.2 } }
  links_eq :
    units.links =
      repository.names.map fun name => (name, identifier name)
  index_eq :
    units.index =
      { path := "repository/mod.rs"
        text :=
          String.join
            ((repository.names.map identifier).map moduleLine ++
              "\n" ::
                (repository.names.map identifier).map
                  exportLine) }
  index_read :
    readSource units.index.text =
      some
        ((repository.names.map identifier).map
            Statement.submodule ++
          (repository.names.map identifier).map fun name =>
            Statement.reexport name name)
  ascii :
    ∀ unit ∈ units.all, ∀ c ∈ unit.path.toList, c.toNat < 128
  distinct :
    (units.all.map fun unit => unit.path.toLower).Nodup

namespace IsSplit

variable {repository : Repository}
variable {units : RepositoryUnits}

/- All paths are made of characters of paths. -/
theorem isPathChar_of_mem_path
    (hSplit : units.IsSplit repository)
    {unit : SourceUnit}
    (hUnit : unit ∈ units.all) :
    ∀ c ∈ unit.path.toList, isPathChar c = true := by
  have hPrimary :
      primaryName.toList.all isPathChar = true := by
    decide
  have hPath : unit.path ∈ units.all.map SourceUnit.path :=
    List.mem_map_of_mem hUnit
  rw [hSplit.paths_eq] at hPath
  rcases List.mem_append.mp hPath with hEntry | hIndex
  · rcases List.mem_map.mp hEntry with ⟨_, hName, hEqual⟩
    rcases List.mem_map.mp hName with ⟨entry, -, rfl⟩
    rw [← hEqual]
    exact
      isPathChar_of_mem_entryPath
        (isPathChar_of_mem_unitFile entry.1)
  · rw [List.mem_singleton.mp hIndex]
    exact
      isPathChar_of_mem_entryPath
        (List.all_eq_true.mp hPrimary)

/- Units of a split are complete. -/
theorem isComplete
    (hSplit : units.IsSplit repository) :
    units.IsComplete repository := by
  have hIndex := hSplit.index_eq
  rw [entryIdentifiers_entries] at hIndex
  constructor
  · rw [hSplit.entries_eq]
    rfl
  · rw [hSplit.links_eq, entryLinks, Repository.names,
      List.map_map]
    rfl
  · rw [hIndex]
    rfl
  · rw [hIndex]
    refine readSource_indexText fun name hName => ?_
    rcases List.mem_map.mp hName with ⟨other, -, rfl⟩
    exact isNameWord_identifier other
  · intro unit hUnit c hMember
    have hChar := hSplit.isPathChar_of_mem_path hUnit c hMember
    exact (toLower_of_isPathChar hChar).2
  · have hPaths :
        (units.all.map fun unit => unit.path.toLower) =
          units.all.map SourceUnit.path := by
      refine List.map_congr_left fun unit hUnit => ?_
      exact
        toLower_of_forall_isPathChar
          (hSplit.isPathChar_of_mem_path hUnit)
    rw [hPaths]
    exact (List.nodup_cons.mp hSplit.nodup_paths).2

end IsSplit

end RepositoryUnits

/-
  A repository is split just if no two of its names have the
  same identifier, and then completely.  Otherwise the error
  names the first entry whose identifier is taken.
-/
theorem split_isComplete_or_collides
    (repository : Repository) :
    (repository.split.isOk ↔
        (repository.names.map identifier).Nodup) ∧
      match repository.split with
      | .error error =>
          ∃ name, IsCollision repository.entries name ∧
            error = .repositoryCollision name
      | .ok units => units.IsComplete repository := by
  rw [← entryIdentifiers_entries]
  cases hSplit : repository.split with
  | ok units =>
      have hIsSplit := RepositoryUnits.isSplit_of_split hSplit
      exact
        ⟨iff_of_true rfl hIsSplit.distinct, hIsSplit.isComplete⟩
  | error error =>
      unfold Repository.split at hSplit
      split at hSplit
      · rename_i other hEntries
        cases hSplit
        rcases isCollision_of_splitEntries hEntries with
          ⟨name, hCollision, rfl⟩
        exact
          ⟨iff_of_false nofun hCollision.not_nodup, name,
            hCollision, rfl⟩
      · cases hSplit

end TextMate
