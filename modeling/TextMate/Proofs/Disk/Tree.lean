import TextMate.Proofs.Disk.Folders

/-
  This file defines when a folder of a disk holds certain files
  and nothing else but the folders on the way to them, and
  proves that a file which is written adds itself to these.

  No file may be on the way to another one.

  Main declarations:
    * `Path.LeadsDown`
    * `Disk.TreeEntry`
    * `Disk.HoldsJust`
    * `Disk.holdsJust_nil`
    * `Disk.holdsJust_writeDeep`
-/

namespace TextMate

------------------------------------------------------------
-- Paths That Lead Down
------------------------------------------------------------

namespace Path

/- A relative path goes down by one name or more. -/
structure LeadsDown
    (path : String)
    (names : List String) : Prop where
  isRelative : isAbsolute path = false
  components_eq : components path = names.map .down
  notEmpty : names ≠ []

namespace LeadsDown

variable {path : String}
variable {names : List String}

/- Such a path is a text. -/
theorem ne_empty
    (hPath : LeadsDown path names) :
    path ≠ "" := by
  rintro rfl
  have hNone : [] = names.map Step.down :=
    hPath.components_eq
  exact hPath.notEmpty (List.map_eq_nil_iff.mp hNone.symm)

/- It starts at the folder of work. -/
theorem start_eq
    (hPath : LeadsDown path names)
    (disk : Disk) :
    disk.start path = disk.workFolder := by
  rw [Disk.start, hPath.isRelative]
  rfl

/- A path that leads on down from there leads down. -/
theorem join
    (hPath : LeadsDown path names)
    {other : String}
    {others : List String}
    (hOther : isAbsolute other = false)
    (hSteps : steps other = others.map .down) :
    LeadsDown (Path.join path other) (names ++ others) where
  isRelative := by
    rw [isAbsolute_join path hOther]
    exact hPath.isRelative
  components_eq := by
    have hMoving :=
      moving_steps_of_components hPath.components_eq
    have hOthers : moving (others.map .down) = others.map .down := by
      simp [moving, List.filter_eq_self]
    have hComponents := hPath.components_eq
    rw [components, steps_join path hOther, hSteps]
    rw [components] at hComponents
    cases hFirst : steps path with
    | nil =>
        rw [hFirst] at hMoving
        exact
          absurd (List.map_eq_nil_iff.mp hMoving.symm)
            hPath.notEmpty
    | cons first rest =>
        rw [hFirst] at hMoving hComponents
        cases first with
        | stay =>
            simp only [hPath.isRelative, Bool.false_eq_true,
              if_false] at hComponents
            cases names <;> cases hComponents
        | up | down name =>
            simp only [List.cons_append]
            rw [← List.cons_append, moving, List.filter_append,
              ← moving, ← moving, hMoving, hOthers,
              List.map_append]
  notEmpty := List.append_ne_nil_of_left_ne_nil hPath.notEmpty _

end LeadsDown

end Path

------------------------------------------------------------
-- Folders with Files Alone
------------------------------------------------------------

namespace Disk

/- What is at names below a folder that holds files alone. -/
inductive TreeEntry
    (files : List (List String × String)) :
    List String → Entry → Prop where
  | root :
      TreeEntry files [] .folder
  | file
      {names : List String}
      {contents : String}
      (hFile : (names, contents) ∈ files) :
      TreeEntry files names (.file contents false)
  | way
      {rest names : List String}
      {contents : String}
      (hFile : (names, contents) ∈ files)
      (hWay : rest <+: names)
      (hNot : rest ≠ names) :
      TreeEntry files rest .folder

/-
  The folder at a place holds files, the folders on the way to
  them, and nothing else.
-/
def HoldsJust
    (disk : Disk)
    (place : Place)
    (files : List (List String × String)) : Prop :=
  ∀ rest entry,
    disk.entryAt? (place ++ rest) = some entry ↔
      TreeEntry files rest entry

/- None of two files is on the way to the other. -/
def Apart
    (first second : List String × String) : Prop :=
  ¬first.1 <+: second.1 ∧ ¬second.1 <+: first.1

/- A bare folder holds no files. -/
theorem holdsJust_nil
    {disk : Disk}
    {place : Place}
    (hFolder : disk.entryAt? place = some .folder)
    (hBare : disk.Bare place) :
    disk.HoldsJust place [] := by
  intro rest entry
  by_cases hRest : rest = []
  · rw [hRest, List.append_nil, hFolder, Option.some.injEq]
    constructor
    · rintro rfl
      exact .root
    · intro hTree
      cases hTree with
      | root => rfl
      | file hFile => cases hFile
      | way hFile _ _ => cases hFile
  · rw [hBare rest hRest]
    constructor
    · exact nofun
    · intro hTree
      cases hTree with
      | root => exact absurd rfl hRest
      | file hFile => cases hFile
      | way hFile _ _ => cases hFile

/- More files hold all that fewer of them hold. -/
theorem TreeEntry.append
    {files : List (List String × String)}
    {rest : List String}
    {entry : Entry}
    (hTree : TreeEntry files rest entry)
    (others : List (List String × String)) :
    TreeEntry (files ++ others) rest entry := by
  cases hTree with
  | root => exact .root
  | file hFile => exact .file (List.mem_append_left _ hFile)
  | way hFile hWay hNot =>
      exact .way (List.mem_append_left _ hFile) hWay hNot

/- Nothing is where a file could stand apart from the others. -/
theorem not_treeEntry_of_apart
    {files : List (List String × String)}
    {file : List String × String}
    (hNotEmpty : file.1 ≠ [])
    (hApart : ∀ other ∈ files, Apart other file)
    (entry : Entry) :
    ¬TreeEntry files file.1 entry := by
  intro hTree
  generalize hNames : file.1 = names at hTree
  cases hTree with
  | root => exact hNotEmpty hNames
  | file hFile =>
      apply (hApart _ hFile).1
      exact hNames ▸ List.prefix_rfl
  | way hFile hWay _ =>
      apply (hApart _ hFile).2
      rwa [hNames]

/- The tree with one more file that is apart from the others. -/
theorem treeEntry_append_iff
    {files : List (List String × String)}
    {file : List String × String}
    (hNotEmpty : file.1 ≠ [])
    (hApart : ∀ other ∈ files, Apart other file)
    (rest : List String)
    (entry : Entry) :
    TreeEntry (files ++ [file]) rest entry ↔
      if rest = file.1 then entry = .file file.2 false
      else if rest <+: file.1 then entry = .folder
      else TreeEntry files rest entry := by
  rcases file with ⟨names, contents⟩
  have hNew : (names, contents) ∈ files ++ [(names, contents)] :=
    List.mem_append_right _ List.mem_cons_self
  constructor
  · intro hTree
    cases hTree with
    | root =>
        rw [if_neg (Ne.symm hNotEmpty),
          if_pos List.nil_prefix]
    | file hFile =>
        rcases List.mem_append.mp hFile with hOld | hLast
        · rcases hApart _ hOld with ⟨hNotWay, -⟩
          have hOther : rest ≠ names := by
            rintro rfl
            exact hNotWay List.prefix_rfl
          rw [if_neg hOther, if_neg hNotWay]
          exact .file hOld
        · cases List.mem_singleton.mp hLast
          rw [if_pos rfl]
    | @way _ other _ hFile hWay hNot =>
        rcases List.mem_append.mp hFile with hOld | hLast
        · rcases hApart _ hOld with ⟨-, hNotBehind⟩
          have hOther : rest ≠ names := by
            rintro rfl
            exact hNotBehind hWay
          rw [if_neg hOther]
          split
          · rfl
          · exact .way hOld hWay hNot
        · cases List.mem_singleton.mp hLast
          rw [if_neg hNot, if_pos hWay]
  · intro hEntry
    by_cases hLast : rest = names
    · rw [if_pos hLast] at hEntry
      rw [hLast, hEntry]
      exact .file hNew
    · rw [if_neg hLast] at hEntry
      by_cases hWay : rest <+: names
      · rw [if_pos hWay] at hEntry
        rw [hEntry]
        exact .way hNew hWay hLast
      · rw [if_neg hWay] at hEntry
        exact hEntry.append _

/-
  A file that is written in a folder of files is one of them
  afterwards, and nothing else changed but missing folders on
  the way to the folder.
-/
theorem holdsJust_writeDeep
    {path contents : String}
    {names rest : List String}
    {files : List (List String × String)}
    {before after : Disk}
    (hPath : Path.LeadsDown path (names ++ rest))
    (hNotEmpty : rest ≠ [])
    (hApart : ∀ file ∈ files, Apart file (rest, contents))
    (hBefore :
      before.HoldsJust (before.workFolder ++ names) files)
    (hRun :
      outcome (writeDeep path contents) before =
        (.ok (), after)) :
    Confined (before.workFolder ++ names) before after ∧
      after.HoldsJust (before.workFolder ++ names)
        (files ++ [(rest, contents)]) := by
  rcases List.eq_nil_or_concat rest with
    rfl | ⟨way, last, rfl⟩
  · exact absurd rfl hNotEmpty
  rw [List.concat_eq_append] at hPath hApart ⊢
  have hDown := hPath.components_eq
  rw [← List.append_assoc] at hDown
  rcases writeDeep_eq_ok hDown hRun with ⟨hConfined, hEntries⟩
  rw [hPath.start_eq] at hConfined hEntries
  have hOuter :
      before.workFolder ++ names <+:
        before.workFolder ++ (names ++ way) := by
    rw [← List.append_assoc]
    exact List.prefix_append _ _
  have hFree :
      before.entryAt?
          (before.workFolder ++ (names ++ (way ++ [last]))) =
        none := by
    rw [Option.eq_none_iff_forall_ne_some]
    intro entry hEntry
    rw [← List.append_assoc, hBefore] at hEntry
    exact
      not_treeEntry_of_apart (by simp) hApart entry hEntry
  have hProgram :
      before.isProgram
          (before.workFolder ++ (names ++ (way ++ [last]))) =
        false := by
    rw [isProgram, hFree]
  refine ⟨hConfined _ hOuter, fun rest entry => ?_⟩
  have hBehind := hEntries (names ++ rest)
  simp only [List.append_assoc, List.append_right_inj,
    List.prefix_append_right_inj, hProgram] at hBehind
  rw [List.append_assoc, hBehind,
    treeEntry_append_iff (by simp) hApart rest entry]
  by_cases hLast : rest = way ++ [last]
  · rw [if_pos hLast, if_pos hLast, Option.some.injEq, eq_comm]
  · have hWay : rest <+: way ++ [last] ↔ rest <+: way := by
      rw [List.prefix_concat_iff]
      exact or_iff_right hLast
    simp only [if_neg hLast, hWay]
    by_cases hOn : rest <+: way
    · rw [if_pos hOn, if_pos hOn, Option.some.injEq, eq_comm]
    · rw [if_neg hOn, if_neg hOn, ← List.append_assoc]
      exact hBefore rest entry

end Disk

end TextMate
