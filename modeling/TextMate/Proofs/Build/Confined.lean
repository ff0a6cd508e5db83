import TextMate.Proofs.Build.Outcome
import TextMate.Proofs.Disk.Copy

/-
  This file proves that a build changes nothing outside of its
  folder, but for one file: the grammar file itself, if its name
  leads out of the folder.

  The name of a grammar may hold slashes, and it is joined to
  the folder as a path.

  Main declarations:
    * `Path.LeavesFolder`
    * `Contained`
    * `build_contained`
-/

namespace TextMate

------------------------------------------------------------
-- Paths out of Folders
------------------------------------------------------------

namespace Path

/- A path may lead out of the folder that it is joined to. -/
def LeavesFolder
    (path : String) : Prop :=
  isAbsolute path ∨ .up ∈ steps path

instance : DecidablePred LeavesFolder := fun path =>
  inferInstanceAs
    (Decidable (isAbsolute path = true ∨ .up ∈ steps path))

/- A name stays in the folder. -/
theorem IsName.not_leavesFolder
    {name : String}
    (hName : IsName name) :
    ¬LeavesFolder name := by
  rw [LeavesFolder, hName.isAbsolute_eq, hName.steps_eq]
  simp

/- A path that stays in a folder goes down from there. -/
theorem steps_join_of_stays
    {folder path : String}
    {names : List String}
    (hDown : components folder = names.map .down)
    (hStays : ¬LeavesFolder path) :
    .up ∉ steps (join folder path) ∧
      descent (steps (join folder path)) =
        names ++ descent (steps path) := by
  rw [LeavesFolder, not_or, Bool.not_eq_true] at hStays
  rw [steps_join folder hStays.1, descent_append,
    Disk.descent_of_components hDown]
  refine ⟨?_, rfl⟩
  rw [List.mem_append, not_or]
  exact ⟨Disk.no_up_of_components hDown, hStays.2⟩

end Path

------------------------------------------------------------
-- Stages of Builds
------------------------------------------------------------

variable {options : BuildOptions}
variable {names : List String}

/- Copies keep all entries of a disk. -/
theorem extends_copyFiles
    {workspace : Workspace}
    (hNamed : workspace.disk.Named) :
    Disk.Extends workspace.disk
      (outcome options.copyFiles workspace).2.disk := by
  unfold BuildOptions.copyFiles
  split
  · refine holds_copyConfigs hNamed ?_ (.refl _)
    exact fun _ _ => Disk.extends_copy _ _ _
  · exact .refl _

/- Copies change the folder alone. -/
theorem confined_copyFiles
    {workspace : Workspace}
    (hOut : Path.components options.outFolder = names.map .down)
    (hNamed : workspace.disk.Named) :
    Disk.Confined
      (workspace.disk.start options.outFolder ++ names)
      workspace.disk
      (outcome options.copyFiles workspace).2.disk := by
  unfold BuildOptions.copyFiles
  split
  · refine holds_copyConfigs hNamed ?_ (.refl _ _)
    intro name hName
    rcases Path.steps_join_of_stays hOut hName.not_leavesFolder
      with ⟨hUp, hDescent⟩
    refine Disk.confined_copy hUp ?_
    rw [Disk.start_join _ hName.isAbsolute_eq, hDescent,
      ← List.append_assoc]
    exact List.prefix_append _ _
  · exact .refl _ _

/- A grammar file whose name stays in the folder is in it. -/
theorem isWithin_of_writable
    {grammar : Grammar}
    {disk : Disk}
    {place : Disk.Place}
    (hOut : Path.components options.outFolder = names.map .down)
    (hStays :
      ¬Path.LeavesFolder (options.fileName grammar))
    (hPlace : disk.writable (options.target grammar) = .ok place) :
    Disk.isWithin place
      (disk.start options.outFolder ++ names) := by
  rcases Path.steps_join_of_stays hOut hStays with
    ⟨hUp, hDescent⟩
  rw [Path.LeavesFolder, not_or, Bool.not_eq_true] at hStays
  rw [options.target_eq_join] at hPlace
  rw [Disk.isWithin_iff, Disk.eq_of_writable_of_no_up hUp hPlace,
    Disk.start_join _ hStays.1, hDescent, ← List.append_assoc]
  exact List.prefix_append _ _

/-
  Outside of its folder a build leaves an entry as it was, or
  makes a folder on the way, or writes the grammar there, whose
  name leads out of the folder then.
-/
def Contained
    (options : BuildOptions)
    (grammar : Grammar)
    (folder : Disk.Place)
    (before after : Disk) : Prop :=
  ∀ place, ¬Disk.isWithin place folder →
    after.entryAt? place = before.entryAt? place ∨
      (Disk.isWithin folder place ∧
        before.entryAt? place = none ∧
        after.entryAt? place = some .folder) ∨
      (Path.LeavesFolder (options.fileName grammar) ∧
        after.resolve (options.target grammar) = .ok place ∧
        after.entryAt? place =
          some
            (.file grammar.toDocument.text
              (before.isProgram place)))

/- What is confined to the folder is contained. -/
theorem Disk.Confined.contained
    {folder : Disk.Place}
    {before after : Disk}
    (hConfined : Disk.Confined folder before after)
    (grammar : Grammar) :
    Contained options grammar folder before after :=
  fun place hOutside =>
    (hConfined.outside place hOutside).imp_right Or.inl

/- A grammar that is written, and what is copied, is contained. -/
theorem contained_copyFiles
    {grammar : Grammar}
    {before disk : Disk}
    {place : Disk.Place}
    {log : List LogRecord}
    (hOut : Path.components options.outFolder = names.map .down)
    (hClean :
      Disk.Confined (before.start options.outFolder ++ names)
        before disk)
    (hNamed : disk.Named)
    (hPlace : disk.writable (options.target grammar) = .ok place) :
    Contained options grammar
      (before.start options.outFolder ++ names) before
      (outcome options.copyFiles
        (wroteGrammar options grammar disk log place)).2.disk := by
  let wrote := wroteGrammar options grammar disk log place
  have hFolder := Disk.not_folder_of_writable hPlace
  have hNamedWrote : wrote.disk.Named :=
    named_wroteGrammar hNamed hPlace log
  have hEntry := entryAt?_wroteGrammar hPlace log
  have hConfined := confined_copyFiles hOut hNamedWrote
  have hStart :
      wrote.disk.start options.outFolder =
        before.start options.outFolder :=
    hClean.start options.outFolder
  rw [hStart] at hConfined
  intro other hOutside
  have hFirst := hClean.outside other hOutside
  have hLast := hConfined.outside other hOutside
  by_cases hOther : other = place
  · subst hOther
    rw [hEntry, if_pos rfl] at hLast
    have hKept := hLast.resolve_right (by simp)
    have hProgram :
        disk.isProgram other = before.isProgram other := by
      rcases hFirst with hSame | ⟨-, -, hMade⟩
      · rw [Disk.isProgram, Disk.isProgram, hSame]
      · exact absurd hMade hFolder
    have hLeaves :
        Path.LeavesFolder (options.fileName grammar) := by
      apply Decidable.byContradiction
      intro hStays
      apply hOutside
      rw [← hClean.start options.outFolder]
      exact isWithin_of_writable hOut hStays hPlace
    have hExtends :
        Disk.Extends disk
          (outcome options.copyFiles wrote).2.disk :=
      (extends_wroteGrammar hPlace log).trans
        (extends_copyFiles hNamedWrote)
    refine Or.inr (Or.inr ⟨hLeaves, ?_, ?_⟩)
    · apply hExtends.resolve_of_writable hPlace
      exact Option.isSome_of_eq_some hKept
    · rw [hKept, hProgram]
  · rw [hEntry, if_neg hOther] at hLast
    rcases hLast with hKept | ⟨hWay, hNone, hMade⟩
    · rw [hKept]
      exact hFirst.imp_right Or.inl
    · -- A folder that was made before is no longer missing.
      rcases hFirst with hSame | ⟨-, -, hFound⟩
      · rw [hNone] at hSame
        exact Or.inr (Or.inl ⟨hWay, hSame.symm, hMade⟩)
      · cases hNone.symm.trans hFound

------------------------------------------------------------
-- Builds
------------------------------------------------------------

/-
  A build is contained in its folder, if the components of the
  path of the folder are names, whether the build succeeds or
  fails.
-/
theorem build_contained
    (options : BuildOptions)
    (grammar : Grammar)
    (workspace : Workspace)
    (names : List String)
    (hOut : Path.components options.outFolder = names.map .down)
    (hNamed : workspace.disk.Named) :
    Contained options grammar
      (workspace.disk.start options.outFolder ++ names)
      workspace.disk
      (outcome (build options grammar) workspace).2.disk := by
  have hClean :
      Disk.Confined
        (workspace.disk.start options.outFolder ++ names)
        workspace.disk
        (outcome (Disk.clean options.outFolder)
          workspace.disk).2 :=
    Disk.confined_clean hOut workspace.disk (.refl _ _)
  have hCleanNamed :=
    Disk.named_clean options.outFolder workspace.disk hNamed
  rw [outcome_build]
  split
  · exact (Disk.Confined.refl _ _).contained grammar
  · rcases hOutcome :
      outcome (Disk.clean options.outFolder) workspace.disk with
      ⟨_ | ⟨⟩, disk⟩
    · rw [hOutcome] at hClean
      exact hClean.contained grammar
    · rw [hOutcome] at hClean hCleanNamed
      dsimp only
      split
      · exact hClean.contained grammar
      · rename_i place hPlace
        exact
          contained_copyFiles hOut hClean hCleanNamed hPlace

/- A disk with a file beside the folder of the builds. -/
def keptDisk : Disk where
  entries :=
    [(["keep.tmLanguage.json"], .file "kept" false),
      (["dist"], .folder),
      (["dist", "old.json"], .file "old" false)]
  workFolder := []

/- A grammar with a name and nothing else. -/
def emptyGrammar
    (name : String) : Grammar where
  name := name
  scopeName := "source.empty"
  injectionSelector := none
  patterns := []
  repository := .empty
  extra := []

/-
  A build in a folder keeps a file of its name beside it.  The
  path of the folder is written with slashes and stays that
  count for nothing.
-/
theorem build_contained_keptDisk :
    let options : BuildOptions := ⟨"dist/.//", none, none⟩
    let grammar := emptyGrammar "keep"
    let place := ["keep.tmLanguage.json"]
    let after :=
      (outcome (build options grammar) ⟨keptDisk, []⟩).2.disk
    Path.components "dist/.//" = ["dist"].map .down ∧
      keptDisk.Named ∧
      after.entryAt? place = some (.file "kept" false) := by
  intro options grammar place after
  have hOut :
      Path.components "dist/.//" = ["dist"].map .down := by
    decide
  have hNamed : keptDisk.Named := by
    decide
  have hOutside :
      ¬Disk.isWithin place
        (keptDisk.start "dist/.//" ++ ["dist"]) := by
    decide
  have hStays :
      ¬Path.LeavesFolder (options.fileName grammar) := by
    decide
  have hThere :
      keptDisk.entryAt? place = some (.file "kept" false) := rfl
  have hContained :=
    build_contained options grammar ⟨keptDisk, []⟩ ["dist"] hOut
      hNamed place hOutside
  rw [hThere] at hContained
  refine ⟨hOut, hNamed, ?_⟩
  rcases hContained with hKept | ⟨-, hNone, -⟩ | ⟨hLeaves, -⟩
  · exact hKept
  · cases hNone
  · exact absurd hLeaves hStays

/-
  A name that goes up leads out of the folder, so that a file
  beside it is replaced by the grammar.
-/
theorem keptDisk_not_confined :
    let options : BuildOptions := ⟨"dist", none, none⟩
    let grammar := emptyGrammar "../keep"
    let place := ["keep.tmLanguage.json"]
    let after :=
      outcome (build options grammar) ⟨keptDisk, []⟩
    after.1.isOk ∧
      Path.components "dist" = ["dist"].map .down ∧
      ¬Disk.isWithin place (keptDisk.start "dist" ++ ["dist"]) ∧
      keptDisk.entryAt? place = some (.file "kept" false) ∧
      after.2.disk.entryAt? place =
        some (.file grammar.toDocument.text false) ∧
      grammar.toDocument.text ≠ "kept" := by
  decide +kernel

end TextMate
