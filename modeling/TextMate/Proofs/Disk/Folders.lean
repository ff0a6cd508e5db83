import TextMate.Proofs.Disk.Confined
import TextMate.Proofs.Disk.Rooted

/-
  This file states what is on a disk after a folder was emptied,
  and after a file was written in a folder that was made where
  it was missing, if this succeeds.

  Folders are made on the way to a place alone, and only where
  nothing is.

  Main declarations:
    * `Disk.MakesWay`
    * `Disk.makesWay_makeFolders`
    * `Disk.folder_of_makeFolders`
    * `Disk.Bare`
    * `Disk.clean_eq_ok`
    * `Disk.outcome_writeDeep_of_no_parent`
    * `Disk.writeDeep_eq_ok`
-/

namespace TextMate

namespace Disk

variable {path : String}
variable {names : List String}

------------------------------------------------------------
-- Folders on the Way
------------------------------------------------------------

/- Missing folders are made on the way, and nothing else is. -/
structure MakesWay
    (folder : Place)
    (before after : Disk) : Prop where
  workFolder : after.workFolder = before.workFolder
  entries :
    ∀ place,
      after.entryAt? place = before.entryAt? place ∨
        place <+: folder ∧
          before.entryAt? place = none ∧
          after.entryAt? place = some .folder

namespace MakesWay

variable {folder : Place}
variable {before after later : Disk}

theorem refl
    (folder : Place)
    (disk : Disk) :
    MakesWay folder disk disk :=
  ⟨rfl, fun _ => Or.inl rfl⟩

/- A path starts where it did. -/
theorem start
    (hMakes : MakesWay folder before after)
    (path : String) :
    after.start path = before.start path := by
  unfold Disk.start
  rw [hMakes.workFolder]

/- One more folder may be made. -/
theorem put
    (hMakes : MakesWay folder before after)
    {place : Place}
    (hWay : place <+: folder)
    (hPlace : place ≠ [])
    (hMissing : after.entryAt? place = none) :
    MakesWay folder before (after.put place .folder) where
  workFolder := hMakes.workFolder
  entries := by
    intro other
    rw [entryAt?_put after hPlace]
    by_cases hOther : other = place
    · subst hOther
      rw [if_pos rfl]
      rcases hMakes.entries other with hSame | ⟨-, -, hMade⟩
      · exact Or.inr ⟨hWay, hSame.symm.trans hMissing, rfl⟩
      · cases hMissing.symm.trans hMade
    · rw [if_neg hOther]
      exact hMakes.entries other

/- Nothing is made but on the way. -/
theorem entryAt?_eq
    (hMakes : MakesWay folder before after)
    {place : Place}
    (hWay : ¬place <+: folder) :
    after.entryAt? place = before.entryAt? place :=
  (hMakes.entries place).resolve_right fun hMade =>
    hWay hMade.1

/- Nothing is made behind the last of the folders. -/
theorem entryAt?_append
    (hMakes : MakesWay folder before after)
    {rest : List String}
    (hRest : rest ≠ []) :
    after.entryAt? (folder ++ rest) =
      before.entryAt? (folder ++ rest) := by
  apply hMakes.entryAt?_eq
  intro hWay
  have hLength := hWay.length_le
  rw [List.length_append] at hLength
  have hNone : rest.length = 0 := by omega
  exact hRest (List.eq_nil_of_length_eq_zero hNone)

/- What is outside of a folder changes on the way to it alone. -/
theorem confined
    (hMakes : MakesWay folder before after)
    {outer : Place}
    (hOuter : outer <+: folder) :
    Confined outer before after where
  workFolder := hMakes.workFolder
  outside := by
    intro place hOutside
    rcases hMakes.entries place with
      hSame | ⟨hWay, hMissing, hMade⟩
    · exact Or.inl hSame
    · rw [isWithin_iff] at hOutside
      have hBefore : place <+: outer :=
        (List.prefix_or_prefix_of_prefix hWay
          hOuter).resolve_right hOutside
      exact Or.inr ⟨isWithin_iff.mpr hBefore, hMissing, hMade⟩

end MakesWay

/- Folders are made on the way to the place of a path. -/
theorem makesWay_makeFolders
    (hDown : Path.components path = names.map .down)
    (disk : Disk) :
    MakesWay (disk.start path ++ names) disk
      (outcome (makeFolders path) disk).2 := by
  have hMake :
      Preserves (MakesWay (disk.start path ++ names) disk)
        (makeFolders path) := by
    refine .makeFolders fun other hOther => ?_
    refine .makeFolder fun now folder name hNamed hFree hMakes => ?_
    rcases start_append_prefix_of_mem_parents hDown hOther with
      ⟨hUp, hWay⟩
    have hPlace := eq_of_locate_of_no_up hUp hNamed
    rw [hMakes.start] at hPlace
    apply hMakes.put _ _ hFree
    · rw [hPlace]
      exact hWay
    · exact
        List.append_ne_nil_of_right_ne_nil _
          (List.cons_ne_nil _ _)
  exact hMake disk (.refl _ _)

/-
  The folder that is made last is made from nothing, or it is
  there already.
-/
theorem makeChain_eq_ok
    {parents : List String}
    {disk after : Disk}
    (hPath : path ≠ "")
    (hRun :
      outcome (makeChain (path :: parents)) disk =
        (.ok (), after)) :
    (∃ between,
        outcome (makeFolder path) between = (.ok (), after)) ∨
      after.isFolder path := by
  have hKeep :
      ∀ (error : OsError) (between : Disk),
        outcome
            (do
              if (← get).isFolder path then return ()
              else throw error : Access Unit)
            between =
          (.ok (), after) →
            after.isFolder path := by
    intro error between hKept
    simp only [outcome_bind, outcome_get] at hKept
    split at hKept
    · cases hKept
      assumption
    · cases hKept
  rw [makeChain, if_neg hPath, outcome_bind, outcome_attempt]
    at hRun
  dsimp only at hRun
  split at hRun
  · rename_i hMade
    refine Or.inl ⟨disk, ?_⟩
    cases hRun
    exact Prod.ext hMade rfl
  · rcases outcome_bind_eq_ok_iff.mp hRun with
      ⟨⟨⟩, between, -, hRun⟩
    rw [outcome_bind, outcome_attempt] at hRun
    dsimp only at hRun
    split at hRun
    · rename_i hMade
      refine Or.inl ⟨between, ?_⟩
      cases hRun
      exact Prod.ext hMade rfl
    · exact Or.inr (hKeep _ _ hRun)
  · exact Or.inr (hKeep _ _ hRun)

/- A folder that was made is there. -/
theorem folder_of_makeFolders
    {disk after : Disk}
    (hDown : Path.components path = names.map .down)
    (hPath : path ≠ "")
    (hRun : outcome (makeFolders path) disk = (.ok (), after)) :
    after.entryAt? (disk.start path ++ names) = some .folder := by
  have hUp := no_up_of_components hDown
  have hDescent := descent_of_components hDown
  have hMakes := makesWay_makeFolders hDown disk
  rw [hRun] at hMakes
  have hStart := hMakes.start path
  rw [← hStart]
  rcases makeChain_eq_ok hPath hRun with
    ⟨between, hMade⟩ | hFolder
  · rw [outcome_makeFolder] at hMade
    split at hMade
    · cases hMade
    · rename_i folder name hNamed
      split at hMade
      · cases hMade
      · cases hMade
        have hPlace := eq_of_locate_of_no_up hUp hNamed
        rw [hDescent] at hPlace
        have hSame :
            (between.put (folder ++ [name]) .folder).start path =
              between.start path := rfl
        have hNotRoot : folder ++ [name] ≠ [] :=
          List.append_ne_nil_of_right_ne_nil _
            (List.cons_ne_nil _ _)
        rw [hSame, ← hPlace, entryAt?_put _ hNotRoot,
          if_pos rfl]
    · cases hMade
    · cases hMade
    · cases hMade
  · unfold isFolder at hFolder
    split at hFolder
    · rename_i hFind
      rcases find_eq_ok_iff.mp hFind with ⟨place, hPlace, hThere⟩
      rw [eq_of_resolve_of_no_up hUp hPlace, hDescent] at hThere
      exact hThere
    · cases hFolder

------------------------------------------------------------
-- Emptied Folders
------------------------------------------------------------

/- There is nothing below a place. -/
def Bare
    (disk : Disk)
    (place : Place) : Prop :=
  ∀ rest, rest ≠ [] → disk.entryAt? (place ++ rest) = none

/- A place that was cleared is bare. -/
theorem bare_clearBelow
    (disk : Disk)
    (place : Place) :
    (disk.clearBelow place).Bare place := by
  intro rest hRest
  rw [entryAt?_clearBelow, if_pos]
  refine ⟨isWithin_iff.mpr (List.prefix_append _ _), ?_⟩
  intro hSame
  exact hRest (List.append_right_eq_self.mp hSame)

/- A removal that succeeds, or finds nothing, leaves nothing. -/
theorem bare_removeAll
    {disk after : Disk}
    {result : Except OsError Unit}
    (hDown : Path.components path = names.map .down)
    (hPath : path ≠ "")
    (hRooted : disk.Rooted)
    (hRun : outcome (removeAll path) disk = (result, after))
    (hResult : result = .ok () ∨ result = .error .notFound) :
    after.Bare (disk.start path ++ names) := by
  have hUp := no_up_of_components hDown
  have hDescent := descent_of_components hDown
  rw [outcome_removeAll] at hRun
  split at hRun
  · rename_i error hError
    cases hRun
    rcases hResult with hOk | hNotFound
    · cases hOk
    · cases hNotFound
      intro rest _
      rw [← hDescent]
      exact hRooted.entryAt?_of_not_found hPath hUp hError rest
  · rename_i place hPlace
    rw [eq_of_resolve_of_no_up hUp hPlace, hDescent] at hRun
    split at hRun
    · have hRemove :
          Preserves
            (fun now => Bare now (disk.start path ++ names))
            (removeFolder path) := by
        refine .removeFolder ?_
        intro now folder name _ _ hBare rest hRest
        have hNotRoot : folder ++ [name] ≠ [] :=
          List.append_ne_nil_of_right_ne_nil _
            (List.cons_ne_nil _ _)
        rw [entryAt?_erase now hNotRoot]
        split
        · rfl
        · exact hBare rest hRest
      cases hRun
      exact hRemove _ (bare_clearBelow _ _)
    · cases hRun
      rcases hResult with hOk | hNotFound
      · cases hOk
      · cases hNotFound

/-
  A folder that was emptied is there with nothing below it, and
  outside of it missing folders on the way to it were made.
-/
theorem clean_eq_ok
    {disk after : Disk}
    (hDown : Path.components path = names.map .down)
    (hPath : path ≠ "")
    (hRooted : disk.Rooted)
    (hRun : outcome (clean path) disk = (.ok (), after)) :
    Confined (disk.start path ++ names) disk after ∧
      after.entryAt? (disk.start path ++ names) = some .folder ∧
      after.Bare (disk.start path ++ names) := by
  have hConfined :=
    confined_clean hDown disk (.refl _ _)
  have hBetween :=
    confined_removeAll hDown disk (.refl _ _)
  rw [hRun] at hConfined
  rw [clean, outcome_bind, outcome_attempt] at hRun
  rcases hRemove : outcome (removeAll path) disk with
    ⟨result, between⟩
  rw [hRemove] at hRun hBetween
  dsimp only at hRun
  have hResult :
      (result = .ok () ∨ result = .error .notFound) ∧
        outcome (makeFolders path) between =
          (.ok (), after) := by
    split at hRun
    · exact ⟨Or.inl rfl, hRun⟩
    · exact ⟨Or.inr rfl, hRun⟩
    · cases hRun
  have hBare :=
    bare_removeAll hDown hPath hRooted hRemove hResult.1
  have hStart := hBetween.start path
  have hMakes := makesWay_makeFolders hDown between
  have hFolder := folder_of_makeFolders hDown hPath hResult.2
  rw [hStart] at hFolder
  rw [hStart, hResult.2] at hMakes
  refine ⟨hConfined, hFolder, fun rest hRest => ?_⟩
  rw [hMakes.entryAt?_append hRest, hBare rest hRest]

------------------------------------------------------------
-- Written Files
------------------------------------------------------------

/- A file is written where folders lead to it. -/
theorem folder_of_writable
    {last : String}
    {disk : Disk}
    {target : Place}
    (hDown : Path.components path = (names ++ [last]).map .down)
    (hTarget : disk.writable path = .ok target)
    {rest : List String}
    (hWay : rest <+: names) :
    disk.entryAt? (disk.start path ++ rest) = some .folder := by
  have hUp := no_up_of_components hDown
  have hDescent := descent_of_components hDown
  rcases writable_eq_ok_iff.mp hTarget with
    ⟨folder, name, hNamed, -⟩
  rcases locate_eq_named_iff.mp hNamed with
    ⟨-, before, hSteps, hWalk, hFolder, -⟩
  rw [hSteps, List.mem_append, not_or] at hUp
  have hBefore : Path.descent before = names := by
    rw [hSteps, Path.descent_append] at hDescent
    exact (List.append_inj' hDescent rfl).1
  by_cases hAll : rest = names
  · rwa [hAll, ← hBefore, ← eq_of_walk_of_no_up hUp.1 hWalk]
  · rw [← hBefore] at hWay hAll
    exact folder_of_walk hUp.1 hWalk hWay hAll

/-
  A path without a parent leads to no name.  So nothing can be
  written there, and nothing is made.
-/
theorem outcome_writeDeep_of_no_parent
    (hParent : Path.parent? path = none)
    (contents : String)
    (disk : Disk) :
    ∃ error,
      outcome (writeDeep path contents) disk =
        (.error error, disk) := by
  have hWrite :
      outcome (writeDeep path contents) disk =
        outcome (write path contents) disk := by
    simp only [writeDeep, hParent]
  rw [hWrite, outcome_write]
  cases hPlace : disk.writable path with
  | error error => exact ⟨error, rfl⟩
  | ok place =>
      rcases writable_eq_ok_iff.mp hPlace with
        ⟨folder, name, hNamed, -⟩
      rcases locate_eq_named_iff.mp hNamed with
        ⟨-, before, hSteps, -⟩
      have hSome : (Path.parent? path).isSome := by
        apply Path.isSome_parent?
        rw [hSteps]
        exact List.mem_append_right _ List.mem_cons_self
      rw [hParent] at hSome
      cases hSome

/-
  A file that was written in a folder that was made is there,
  the folders on the way to it are there too, and below the
  start of its path nothing else changed.
-/
theorem writeDeep_eq_ok
    {contents last : String}
    {disk after : Disk}
    (hDown : Path.components path = (names ++ [last]).map .down)
    (hRun :
      outcome (writeDeep path contents) disk = (.ok (), after)) :
    (∀ outer, outer <+: disk.start path ++ names →
        Confined outer disk after) ∧
      ∀ rest,
        after.entryAt? (disk.start path ++ rest) =
          if rest = names ++ [last] then
            some
              (.file contents
                (disk.isProgram
                  (disk.start path ++ (names ++ [last]))))
          else if rest <+: names then some .folder
          else disk.entryAt? (disk.start path ++ rest) := by
  have hUp := no_up_of_components hDown
  have hDescent := descent_of_components hDown
  rcases Path.parent?_of_components hDown with
    ⟨parent, hParent, hParentDown, hAbsolute⟩
  have hParentStart : disk.start parent = disk.start path := by
    rw [start, start, hAbsolute]
  simp only [writeDeep, hParent] at hRun
  rcases outcome_bind_eq_ok_iff.mp hRun with
    ⟨⟨⟩, between, hFolders, hWrite⟩
  have hMakes := makesWay_makeFolders hParentDown disk
  rw [hFolders, hParentStart] at hMakes
  have hStart := hMakes.start path
  rw [outcome_write] at hWrite
  split at hWrite
  · cases hWrite
  · rename_i target hTarget
    cases hWrite
    have hNotRoot := ne_root_of_writable hTarget
    have hPlace := eq_of_writable_of_no_up hUp hTarget
    rw [hStart, hDescent] at hPlace
    have hFull :
        target = disk.start path ++ names ++ [last] := by
      rw [hPlace, List.append_assoc]
    refine ⟨fun outer hOuter => ?_, fun rest => ?_⟩
    · have hWithin : isWithin target outer := by
        rw [isWithin_iff, hFull]
        exact hOuter.trans (List.prefix_append _ _)
      exact
        (hMakes.confined hOuter).trans
          (.put hWithin hNotRoot _)
    · rw [entryAt?_put _ hNotRoot, hPlace]
      by_cases hLast : rest = names ++ [last]
      · -- No folder was made in place of the file.
        have hProgram :
            between.isProgram target =
              disk.isProgram target := by
          rw [isProgram, isProgram, hFull,
            hMakes.entryAt?_append (List.cons_ne_nil _ _)]
        rw [if_pos (by rw [hLast]), if_pos hLast, ← hPlace,
          hProgram]
      · rw [if_neg (fun hSame =>
          hLast (List.append_cancel_left hSame)),
          if_neg hLast]
        by_cases hWay : rest <+: names
        · have hFolder :=
            folder_of_writable hDown hTarget hWay
          rw [hStart] at hFolder
          rw [if_pos hWay, hFolder]
        · rw [if_neg hWay]
          apply hMakes.entryAt?_eq
          rwa [List.prefix_append_right_inj]

end Disk

end TextMate
