import TextMate.Proofs.Disk.Access

/-
  This file proves that operations with paths in a folder change
  nothing outside of it.  Only folders that are missing on the
  way to it are made.

  A path that never goes up stays below where it starts, so the
  place of a file is known before it is written.

  Main declarations:
    * `Disk.Confined`
    * `Disk.eq_of_locate_of_no_up`
    * `Preserves.clean`
    * `Preserves.copy`
    * `Disk.confined_clean`
    * `Disk.confined_copy`
    * `Disk.named_clean`
-/

namespace TextMate

------------------------------------------------------------
-- Properties that Operations Preserve
------------------------------------------------------------

namespace Preserves

open Disk

variable {α : Type}
variable {holds : Disk → Prop}

theorem attempt
    {action : Access α}
    (hAction : Preserves holds action) :
    Preserves holds (Disk.attempt action) :=
  fun disk hDisk => hAction disk hDisk

/- A folder is put under a name that is free. -/
theorem makeFolder
    {path : String}
    (hPut :
      ∀ disk folder name,
        disk.locate path = .ok (.named folder name) →
          disk.entryAt? (folder ++ [name]) = none →
            holds disk →
              holds (disk.put (folder ++ [name]) .folder)) :
    Preserves holds (Disk.makeFolder path) := by
  intro disk hDisk
  rw [outcome_makeFolder]
  split
  · exact hDisk
  · rename_i folder name hNamed
    split
    · exact hDisk
    · rename_i hFree
      refine hPut disk folder name hNamed ?_ hDisk
      rwa [has, Bool.not_eq_true, Option.isSome_eq_false_iff,
        Option.isNone_iff_eq_none] at hFree
  · exact hDisk
  · exact hDisk
  · exact hDisk

/- A folder with no names in it is erased under its own. -/
theorem removeFolder
    {path : String}
    (hErase :
      ∀ disk folder name,
        disk.locate path = .ok (.named folder name) →
          disk.names (folder ++ [name]) = [] →
            holds disk → holds (disk.erase (folder ++ [name]))) :
    Preserves holds (Disk.removeFolder path) := by
  intro disk hDisk
  rw [outcome_removeFolder]
  split
  · exact hDisk
  · rename_i folder name hNamed
    split
    · exact hDisk
    · exact hDisk
    · split
      · exact hDisk
      · rename_i hNames
        exact
          hErase disk folder name hNamed
            (Decidable.not_not.mp hNames) hDisk
  · exact hDisk
  · exact hDisk
  · exact hDisk

/- A chain of folders is made folder by folder. -/
theorem makeChain
    {paths : List String}
    (hMake :
      ∀ path ∈ paths, Preserves holds (Disk.makeFolder path)) :
    Preserves holds (Disk.makeChain paths) := by
  induction paths with
  | nil => exact pure ()
  | cons path parents ih =>
      have hPath := attempt (hMake path List.mem_cons_self)
      have hParents :=
        ih fun other hOther =>
          hMake other (List.mem_cons_of_mem path hOther)
      have hKeep :
          ∀ error : OsError,
            Preserves holds (do
              if (← MonadState.get).isFolder path then
                return ()
              else MonadExcept.throw error : Access Unit) := by
        intro error
        refine bind get fun disk => ?_
        split
        · exact pure ()
        · exact throw error
      rw [Disk.makeChain]
      split
      · exact pure ()
      · refine bind hPath fun result => ?_
        split
        · exact pure ()
        · refine bind hParents fun _ => ?_
          refine bind hPath fun result => ?_
          split
          · exact pure ()
          · exact hKeep _
        · exact hKeep _

/- A folder is made with the parents that are missing. -/
theorem makeFolders
    {path : String}
    (hMake :
      ∀ other ∈ path :: Path.parents path,
        Preserves holds (Disk.makeFolder other)) :
    Preserves holds (Disk.makeFolders path) :=
  makeChain hMake

/- A folder is cleared, and then removed if it still can be. -/
theorem removeAll
    {path : String}
    (hClear :
      ∀ disk place, disk.resolve path = .ok place →
        holds disk → holds (disk.clearBelow place))
    (hRemove : Preserves holds (Disk.removeFolder path)) :
    Preserves holds (Disk.removeAll path) := by
  intro disk hDisk
  rw [outcome_removeAll]
  split
  · exact hDisk
  · rename_i place hPlace
    split
    · exact hRemove _ (hClear disk place hPlace hDisk)
    · exact hDisk

/- A folder is removed and made again. -/
theorem clean
    {path : String}
    (hRemove : Preserves holds (Disk.removeAll path))
    (hMake : Preserves holds (Disk.makeFolders path)) :
    Preserves holds (Disk.clean path) := by
  refine bind (attempt hRemove) fun result => ?_
  split
  · exact hMake
  · exact hMake
  · exact throw _

/- A file is copied once its target was emptied. -/
theorem copy
    {source target : String}
    (hPut :
      ∀ disk place isExecutable,
        disk.writable target = .ok place → holds disk →
          let emptied := disk.put place (.file "" isExecutable)
          holds emptied ∧
            ∀ contents,
              holds
                (emptied.put place
                  (.file contents isExecutable))) :
    Preserves holds (Disk.copy source target) := by
  intro disk hDisk
  rw [outcome_copy]
  split
  · exact hDisk
  · exact hDisk
  · rename_i _ isExecutable _
    split
    · exact hDisk
    · rename_i place hPlace
      rcases hPut disk place isExecutable hPlace hDisk with
        ⟨hEmptied, hFull⟩
      dsimp only
      split
      · exact hEmptied
      · exact hEmptied
      · exact hFull _

end Preserves

namespace Disk

variable {disk : Disk}

------------------------------------------------------------
-- Places below a Start
------------------------------------------------------------

/- A path that never goes up leads to a name below its start. -/
theorem eq_of_locate_of_no_up
    {path name : String}
    {folder : Place}
    (hUp : .up ∉ Path.steps path)
    (hNamed : disk.locate path = .ok (.named folder name)) :
    folder ++ [name] =
      disk.start path ++ Path.descent (Path.steps path) := by
  rcases locate_eq_named_iff.mp hNamed with
    ⟨-, before, hSteps, hWalk, -⟩
  rw [hSteps, List.mem_append, not_or] at hUp
  rw [eq_of_walk_of_no_up hUp.1 hWalk, hSteps,
    List.append_assoc, Path.descent_append]
  rfl

/- A file at such a path is written below its start. -/
theorem eq_of_writable_of_no_up
    {path : String}
    {place : Place}
    (hUp : .up ∉ Path.steps path)
    (hPlace : disk.writable path = .ok place) :
    place =
      disk.start path ++ Path.descent (Path.steps path) := by
  rcases writable_eq_ok_iff.mp hPlace with
    ⟨folder, name, hNamed, -, -, rfl⟩
  exact eq_of_locate_of_no_up hUp hNamed

/- Such a path resolves below its start. -/
theorem eq_of_resolve_of_no_up
    {path : String}
    {place : Place}
    (hUp : .up ∉ Path.steps path)
    (hPlace : disk.resolve path = .ok place) :
    place =
      disk.start path ++ Path.descent (Path.steps path) :=
  eq_of_walk_of_no_up hUp (resolve_eq_ok_iff.mp hPlace).2.1

/- A path that goes down by names alone never goes up. -/
theorem no_up_of_components
    {path : String}
    {names : List String}
    (hDown : Path.components path = names.map .down) :
    .up ∉ Path.steps path := by
  intro hUp
  have hMoving : .up ∈ Path.moving (Path.steps path) :=
    List.mem_filter.mpr ⟨hUp, rfl⟩
  rw [Path.moving_steps_of_components hDown] at hMoving
  simp at hMoving

/- It goes down by all of them. -/
theorem descent_of_components
    {path : String}
    {names : List String}
    (hDown : Path.components path = names.map .down) :
    Path.descent (Path.steps path) = names := by
  have hMoving :
      Path.descent (Path.moving (Path.steps path)) =
        Path.descent (Path.steps path) := by
    unfold Path.descent Path.moving
    rw [List.filterMap_filter]
    congr
    funext step
    cases step <;> rfl
  rw [← hMoving, Path.moving_steps_of_components hDown,
    Path.descent_map_down]

------------------------------------------------------------
-- Confinement
------------------------------------------------------------

/- A place is within a folder if the folder leads to it. -/
theorem isWithin_iff
    {place folder : Place} :
    isWithin place folder ↔ folder <+: place :=
  List.isPrefixOf_iff_prefix

/-
  Entries change in a folder alone, and where one was missing on
  the way to it there may be a folder.
-/
structure Confined
    (folder : Place)
    (before after : Disk) : Prop where
  workFolder : after.workFolder = before.workFolder
  outside :
    ∀ place, ¬isWithin place folder →
      after.entryAt? place = before.entryAt? place ∨
        isWithin folder place ∧
          before.entryAt? place = none ∧
          after.entryAt? place = some .folder

namespace Confined

variable {folder : Place}
variable {before after later : Disk}

theorem refl
    (folder : Place)
    (disk : Disk) :
    Confined folder disk disk :=
  ⟨rfl, fun _ _ => Or.inl rfl⟩

theorem trans
    (hFirst : Confined folder before after)
    (hSecond : Confined folder after later) :
    Confined folder before later where
  workFolder := hSecond.workFolder.trans hFirst.workFolder
  outside := by
    intro place hOutside
    rcases hFirst.outside place hOutside with
      hSame | ⟨hWay, hNone, hMade⟩
    · rcases hSecond.outside place hOutside with
        hStill | ⟨hWay, hNone, hMade⟩
      · exact Or.inl (hStill.trans hSame)
      · exact Or.inr ⟨hWay, hSame.symm.trans hNone, hMade⟩
    · -- A folder that was made is no longer missing.
      rcases hSecond.outside place hOutside with
        hStill | ⟨-, hGone, -⟩
      · exact Or.inr ⟨hWay, hNone, hStill.trans hMade⟩
      · cases hMade.symm.trans hGone

/- A path starts where it did. -/
theorem start
    (hConfined : Confined folder before after)
    (path : String) :
    after.start path = before.start path := by
  unfold Disk.start
  rw [hConfined.workFolder]

/- An entry may be put in the folder. -/
theorem put
    {place : Place}
    (hWithin : isWithin place folder)
    (hPlace : place ≠ [])
    (entry : Entry) :
    Confined folder disk (disk.put place entry) where
  workFolder := rfl
  outside := by
    intro other hOutside
    refine Or.inl ?_
    rw [entryAt?_put disk hPlace, if_neg]
    rintro rfl
    exact hOutside hWithin

/- A missing folder may be made on the way to the folder. -/
theorem put_folder
    {place : Place}
    (hWay : isWithin folder place)
    (hPlace : place ≠ [])
    (hMissing : disk.entryAt? place = none) :
    Confined folder disk (disk.put place .folder) where
  workFolder := rfl
  outside := by
    intro other _
    rw [entryAt?_put disk hPlace]
    by_cases hOther : other = place
    · subst hOther
      rw [if_pos rfl]
      exact Or.inr ⟨hWay, hMissing, rfl⟩
    · rw [if_neg hOther]
      exact Or.inl rfl

/- The folder may be cleared. -/
theorem clearBelow
    (folder : Place)
    (disk : Disk) :
    Confined folder disk (disk.clearBelow folder) where
  workFolder := rfl
  outside := by
    intro other hOutside
    refine Or.inl ?_
    rw [entryAt?_clearBelow, if_neg]
    exact fun hCleared => hOutside hCleared.1

/- The folder may be erased. -/
theorem erase
    (hFolder : folder ≠ [])
    (disk : Disk) :
    Confined folder disk (disk.erase folder) where
  workFolder := rfl
  outside := by
    intro other hOutside
    refine Or.inl ?_
    rw [entryAt?_erase disk hFolder, if_neg]
    rintro rfl
    exact hOutside (isWithin_iff.mpr List.prefix_rfl)

end Confined

------------------------------------------------------------
-- Operations in a Folder
------------------------------------------------------------

variable {before : Disk}
variable {path : String}
variable {names : List String}

/- A folder is made on the way to another one. -/
theorem confined_makeFolder
    {folder : Place}
    {parent : String}
    (hUp : .up ∉ Path.steps parent)
    (hWay :
      before.start parent ++
          Path.descent (Path.steps parent) <+:
        folder) :
    Preserves (Confined folder before) (makeFolder parent) := by
  refine .makeFolder ?_
  intro disk outer name hNamed hFree hConfined
  have hPlace := eq_of_locate_of_no_up hUp hNamed
  rw [hConfined.start] at hPlace
  refine hConfined.trans (.put_folder ?_ ?_ hFree)
  · rw [isWithin_iff, hPlace]
    exact hWay
  · exact
      List.append_ne_nil_of_right_ne_nil _
        (List.cons_ne_nil _ _)

/- A folder is removed without other changes. -/
theorem confined_removeAll
    (hDown : Path.components path = names.map .down) :
    Preserves (Confined (before.start path ++ names) before)
      (removeAll path) := by
  have hUp := no_up_of_components hDown
  have hDescent := descent_of_components hDown
  have hRemove :
      Preserves (Confined (before.start path ++ names) before)
        (removeFolder path) := by
    refine .removeFolder ?_
    intro disk folder name hNamed _ hConfined
    have hPlace := eq_of_locate_of_no_up hUp hNamed
    have hNotRoot : folder ++ [name] ≠ [] :=
      List.append_ne_nil_of_right_ne_nil _
        (List.cons_ne_nil _ _)
    rw [hConfined.start, hDescent] at hPlace
    rw [hPlace] at hNotRoot ⊢
    exact hConfined.trans (.erase hNotRoot disk)
  refine .removeAll (fun disk place hPlace hConfined => ?_) hRemove
  rw [eq_of_resolve_of_no_up hUp hPlace, hConfined.start,
    hDescent]
  exact hConfined.trans (.clearBelow _ disk)

/- The folders on the way to a path lead to its place. -/
theorem start_append_prefix_of_mem_parents
    {disk : Disk}
    {other : String}
    (hDown : Path.components path = names.map .down)
    (hOther : other ∈ path :: Path.parents path) :
    .up ∉ Path.steps other ∧
      disk.start other ++ Path.descent (Path.steps other) <+:
        disk.start path ++ names := by
  rcases List.mem_cons.mp hOther with rfl | hParent
  · rw [descent_of_components hDown]
    exact ⟨no_up_of_components hDown, List.prefix_rfl⟩
  · rcases Path.exists_prefix_of_mem_parents hDown hParent with
      ⟨some, hPrefix, hSome, hAbsolute⟩
    have hStart : disk.start other = disk.start path := by
      rw [start, start, hAbsolute]
    rw [descent_of_components hSome, hStart]
    exact
      ⟨no_up_of_components hSome,
        (List.prefix_append_right_inj _).mpr hPrefix⟩

/- A folder is emptied and made again without other changes. -/
theorem confined_clean
    (hDown : Path.components path = names.map .down) :
    Preserves (Confined (before.start path ++ names) before)
      (clean path) := by
  refine .clean (confined_removeAll hDown) ?_
  refine Preserves.makeFolders fun other hOther => ?_
  rcases start_append_prefix_of_mem_parents hDown hOther with
    ⟨hUp, hWay⟩
  exact confined_makeFolder hUp hWay

/- A copy to a path below its start changes nothing else. -/
theorem confined_copy
    {folder : Place}
    {source target : String}
    (hUp : .up ∉ Path.steps target)
    (hWithin :
      folder <+:
        before.start target ++
          Path.descent (Path.steps target)) :
    Preserves (Confined folder before) (copy source target) := by
  refine .copy fun disk place isExecutable hPlace hConfined => ?_
  have hEqual := eq_of_writable_of_no_up hUp hPlace
  rw [hConfined.start] at hEqual
  have hInside : isWithin place folder := by
    rw [isWithin_iff, hEqual]
    exact hWithin
  have hPut :
      ∀ disk entry, Confined folder before disk →
        Confined folder before (disk.put place entry) :=
    fun disk entry hBefore =>
      hBefore.trans
        (.put hInside (ne_root_of_writable hPlace) entry)
  have hEmptied := hPut disk (.file "" isExecutable) hConfined
  exact ⟨hEmptied, fun contents => hPut _ _ hEmptied⟩

------------------------------------------------------------
-- Names
------------------------------------------------------------

/- The name at the end of a path that is located is a name. -/
theorem isName_of_locate
    {name : String}
    {folder : Place}
    (hNamed : disk.locate path = .ok (.named folder name)) :
    Path.IsName name := by
  rcases locate_eq_named_iff.mp hNamed with
    ⟨-, before, hSteps, -⟩
  apply Path.isName_of_mem_steps
  rw [hSteps]
  exact List.mem_append_right _ (List.mem_singleton_self _)

/- A folder is emptied and made again with names only. -/
theorem named_clean
    (path : String) :
    Preserves Named (clean path) := by
  have hMake : ∀ parent, Preserves Named (makeFolder parent) :=
    fun parent =>
      .makeFolder fun disk folder name hNamed _ hDisk =>
        hDisk.put (isName_of_locate hNamed) .folder
  have hRemove : Preserves Named (removeFolder path) :=
    .removeFolder fun disk folder name _ _ hDisk =>
      hDisk.erase _
  refine Preserves.clean (.removeAll ?_ hRemove) ?_
  · exact fun disk place _ hDisk => hDisk.clearBelow place
  · exact Preserves.makeFolders fun other _ => hMake other

/- A file is written under a name. -/
theorem Named.put_of_writable
    (hDisk : disk.Named)
    {place : Place}
    (hPlace : disk.writable path = .ok place)
    (entry : Entry) :
    (disk.put place entry).Named := by
  rcases writable_eq_ok_iff.mp hPlace with
    ⟨folder, name, hNamed, -, -, rfl⟩
  exact hDisk.put (isName_of_locate hNamed) entry

end Disk

end TextMate
