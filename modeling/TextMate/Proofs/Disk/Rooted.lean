import Mathlib.Data.List.Induction
import TextMate.Proofs.Disk.Confined

/-
  This file states that the entries of a disk stand in folders,
  so that nothing is below a place without an entry, and which
  entries a walk over a disk passes or misses.

  All operations keep a disk so: entries are put in folders that
  are there, no folder is replaced by a file, and a folder that
  is erased has nothing in it.

  Main declarations:
    * `Disk.Rooted`
    * `Disk.Rooted.entryAt?_append`
    * `Disk.folder_of_walk`
    * `Disk.exists_missing_of_walk`
    * `Disk.rooted_clean`
    * `Disk.rooted_writeDeep`
    * `Disk.rooted_copy`
-/

namespace TextMate

namespace Disk

variable {disk : Disk}

------------------------------------------------------------
-- Entries in Folders
------------------------------------------------------------

/- Each entry of a disk is in a folder. -/
def Rooted
    (disk : Disk) : Prop :=
  ∀ item ∈ disk.entries,
    disk.entryAt? item.1.dropLast = some .folder

instance : DecidablePred Rooted := fun disk =>
  inferInstanceAs
    (Decidable
      (∀ item ∈ disk.entries,
        disk.entryAt? item.1.dropLast = some .folder))

namespace Rooted

/- What is there is in a folder. -/
theorem folder
    (hRooted : disk.Rooted)
    {place : Place}
    {name : String}
    {entry : Entry}
    (hEntry : disk.entryAt? (place ++ [name]) = some entry) :
    disk.entryAt? place = some .folder := by
  have hNotRoot : place ++ [name] ≠ [] :=
    List.append_ne_nil_of_right_ne_nil _ (List.cons_ne_nil _ _)
  rw [entryAt?, if_neg hNotRoot] at hEntry
  rcases List.lookup_eq_some_iff.mp hEntry with
    ⟨before, after, hEntries, -⟩
  have hMember : (place ++ [name], entry) ∈ disk.entries := by
    rw [hEntries]
    exact List.mem_append_right _ List.mem_cons_self
  have hFolder := hRooted _ hMember
  rwa [List.dropLast_concat] at hFolder

/- Nothing is below a place where nothing is. -/
theorem entryAt?_append
    (hRooted : disk.Rooted)
    {place : Place}
    (hNone : disk.entryAt? place = none)
    (rest : List String) :
    disk.entryAt? (place ++ rest) = none := by
  induction rest using List.reverseRecOn with
  | nil => rwa [List.append_nil]
  | append_singleton rest name ih =>
      cases hEntry : disk.entryAt? (place ++ (rest ++ [name])) with
      | none => rfl
      | some entry =>
          rw [← List.append_assoc] at hEntry
          rw [hRooted.folder hEntry] at ih
          cases ih

end Rooted

------------------------------------------------------------
-- Entries on the Way
------------------------------------------------------------

/- A walk that never goes up passes folders alone. -/
theorem folder_of_walk
    {place found : Place}
    {steps : List Path.Step}
    (hUp : .up ∉ steps)
    (hWalk : disk.walk place steps = .ok found)
    {names : List String}
    (hWay : names <+: Path.descent steps)
    (hNot : names ≠ Path.descent steps) :
    disk.entryAt? (place ++ names) = some .folder := by
  induction steps generalizing place names with
  | nil => exact absurd (List.prefix_nil.mp hWay) hNot
  | cons step rest ih =>
      rw [List.mem_cons, not_or] at hUp
      rcases walk_cons_eq_ok_iff.mp hWalk with
        ⟨hFolder, -, hRest⟩
      cases step with
      | stay => exact ih hUp.2 hRest hWay hNot
      | up => exact absurd rfl hUp.1
      | down name =>
          have hDescent :
              Path.descent (.down name :: rest) =
                name :: Path.descent rest := rfl
          rw [hDescent] at hWay hNot
          cases names with
          | nil => rwa [List.append_nil]
          | cons first others =>
              rw [List.cons_prefix_cons] at hWay
              rcases hWay with ⟨rfl, hWay⟩
              have hInside :=
                ih hUp.2 hRest hWay fun hSame =>
                  hNot (congrArg _ hSame)
              rwa [next, List.append_assoc] at hInside

/- A walk that finds no entry misses one on its way. -/
theorem exists_missing_of_walk
    {place : Place}
    {steps : List Path.Step}
    (hUp : .up ∉ steps)
    (hWalk : disk.walk place steps = .error .notFound) :
    ∃ names, names <+: Path.descent steps ∧
      disk.entryAt? (place ++ names) = none := by
  induction steps generalizing place with
  | nil => cases hWalk
  | cons step rest ih =>
      rw [List.mem_cons, not_or] at hUp
      rw [walk_cons] at hWalk
      cases hPlace : disk.entryAt? place with
      | none =>
          refine ⟨[], List.nil_prefix, ?_⟩
          rwa [List.append_nil]
      | some entry =>
          rw [hPlace] at hWalk
          cases entry with
          | file _ _ => cases hWalk
          | folder =>
              cases step with
              | stay => exact ih hUp.2 hWalk
              | up => exact absurd rfl hUp.1
              | down name =>
                  have hDescent :
                      Path.descent (.down name :: rest) =
                        name :: Path.descent rest := rfl
                  rw [hDescent]
                  dsimp only at hWalk
                  split at hWalk
                  · cases hWalk
                  · by_cases hHas : disk.has (place ++ [name])
                    · rw [if_pos hHas] at hWalk
                      rcases ih hUp.2 hWalk with
                        ⟨names, hWay, hNone⟩
                      refine
                        ⟨name :: names,
                          List.cons_prefix_cons.mpr ⟨rfl, hWay⟩,
                          ?_⟩
                      rwa [List.append_assoc] at hNone
                    · refine
                        ⟨[name],
                          List.cons_prefix_cons.mpr
                            ⟨rfl, List.nil_prefix⟩, ?_⟩
                      rwa [has, Bool.not_eq_true,
                        Option.isSome_eq_false_iff,
                        Option.isNone_iff_eq_none] at hHas

/-
  If a path that never goes up is not found then nothing is at
  its place or below it.
-/
theorem Rooted.entryAt?_of_not_found
    (hRooted : disk.Rooted)
    {path : String}
    (hPath : path ≠ "")
    (hUp : .up ∉ Path.steps path)
    (hNotFound : disk.resolve path = .error .notFound)
    (rest : List String) :
    disk.entryAt?
        (disk.start path ++ Path.descent (Path.steps path) ++
          rest) =
      none := by
  have hWalk :
      disk.walk (disk.start path) (Path.steps path) =
        .error .notFound := by
    unfold resolve at hNotFound
    split at hNotFound
    · rename_i fault hFault
      cases hNotFound
      rw [pathFault?, if_neg hPath] at hFault
      split at hFault
      · cases hFault
      · split at hFault <;> cases hFault
    · split at hNotFound
      · rename_i hWalk
        cases hNotFound
        exact hWalk
      · split at hNotFound <;> cases hNotFound
  rcases exists_missing_of_walk hUp hWalk with
    ⟨names, ⟨others, hWay⟩, hNone⟩
  rw [← hWay, ← List.append_assoc, List.append_assoc]
  exact hRooted.entryAt?_append hNone _

------------------------------------------------------------
-- Operations on Rooted Disks
------------------------------------------------------------

namespace Rooted

variable {folder : Place}
variable {name : String}

/- An entry is put in a folder, where no folder turns a file. -/
theorem put
    (hRooted : disk.Rooted)
    (hFolder : disk.entryAt? folder = some .folder)
    {entry : Entry}
    (hKept :
      disk.entryAt? (folder ++ [name]) = some .folder →
        entry = .folder) :
    (disk.put (folder ++ [name]) entry).Rooted := by
  have hNotRoot : folder ++ [name] ≠ [] :=
    List.append_ne_nil_of_right_ne_nil _ (List.cons_ne_nil _ _)
  intro item hItem
  have hBefore :
      disk.entryAt? item.1.dropLast = some .folder := by
    rcases mem_putEntry hItem with rfl | hOld
    · rwa [List.dropLast_concat]
    · exact hRooted item hOld
  rw [entryAt?_put disk hNotRoot]
  split
  · rename_i hPlace
    rw [hPlace] at hBefore
    rw [hKept hBefore]
  · exact hBefore

/- What is left above a cleared folder is in folders still. -/
theorem clearBelow
    (hRooted : disk.Rooted)
    (folder : Place) :
    (disk.clearBelow folder).Rooted := by
  intro item hItem
  rcases List.mem_filter.mp hItem with ⟨hOld, hLeft⟩
  rw [entryAt?_clearBelow, if_neg]
  · exact hRooted item hOld
  · rintro ⟨hWithin, hOther⟩
    have hParent := isWithin_iff.mp hWithin
    have hInside : isWithin item.1 folder :=
      isWithin_iff.mpr
        (hParent.trans (List.dropLast_prefix item.1))
    have hSame : item.1 = folder := by
      simpa [hInside] using hLeft
    apply hOther
    rw [← hSame] at hParent
    rw [← hSame]
    exact
      (hParent.eq_of_length_le
        (List.dropLast_prefix item.1).length_le).symm

/- A folder with nothing in it is the parent of no entry. -/
theorem erase
    (hRooted : disk.Rooted)
    (hEmpty : disk.names (folder ++ [name]) = []) :
    (disk.erase (folder ++ [name])).Rooted := by
  have hNotRoot : folder ++ [name] ≠ [] :=
    List.append_ne_nil_of_right_ne_nil _ (List.cons_ne_nil _ _)
  intro item hItem
  rcases List.mem_filter.mp hItem with ⟨hOld, -⟩
  rw [entryAt?_erase disk hNotRoot, if_neg]
  · exact hRooted item hOld
  · intro hParent
    rcases item with ⟨place, entry⟩
    rcases List.eq_nil_or_concat place with
      rfl | ⟨outer, last, rfl⟩
    · exact hNotRoot hParent.symm
    · rw [List.concat_eq_append] at hOld hParent
      rw [List.dropLast_concat] at hParent
      have hName := disk.mem_names_of_mem hOld
      rw [hParent, hEmpty] at hName
      cases hName

/- A file is put in a folder. -/
theorem put_of_writable
    (hRooted : disk.Rooted)
    {path : String}
    {place : Place}
    (hPlace : disk.writable path = .ok place)
    (contents : String)
    (isExecutable : Bool) :
    (disk.put place (.file contents isExecutable)).Rooted := by
  rcases writable_eq_ok_iff.mp hPlace with
    ⟨folder, name, hNamed, -, hNoFolder, rfl⟩
  rcases locate_eq_named_iff.mp hNamed with
    ⟨-, _, -, -, hFolder, -⟩
  exact hRooted.put hFolder fun hThere =>
    absurd hThere hNoFolder

end Rooted

/- Folders are made in folders. -/
theorem rooted_makeFolders
    (path : String) :
    Preserves Rooted (makeFolders path) := by
  refine Preserves.makeFolders fun other _ => .makeFolder ?_
  intro disk folder name hNamed _ hRooted
  rcases locate_eq_named_iff.mp hNamed with
    ⟨-, _, -, -, hFolder, -⟩
  exact hRooted.put hFolder fun _ => rfl

/- A folder is emptied and made again in a folder. -/
theorem rooted_clean
    (path : String) :
    Preserves Rooted (clean path) := by
  have hRemove : Preserves Rooted (removeFolder path) :=
    .removeFolder fun _ _ _ _ hEmpty hRooted =>
      hRooted.erase hEmpty
  refine .clean (.removeAll ?_ hRemove) (rooted_makeFolders path)
  exact fun _ place _ hRooted => hRooted.clearBelow place

/- A file is written in a folder that is made. -/
theorem rooted_writeDeep
    (path contents : String) :
    Preserves Rooted (writeDeep path contents) := by
  have hWrite : Preserves Rooted (write path contents) := by
    intro disk hRooted
    rw [outcome_write]
    split
    · exact hRooted
    · rename_i hPlace
      exact hRooted.put_of_writable hPlace _ _
  unfold writeDeep
  split
  · exact (rooted_makeFolders _).bind fun _ => hWrite
  · exact hWrite

/- A copy is put in a folder, twice in one place. -/
theorem rooted_copy
    (source target : String) :
    Preserves Rooted (copy source target) := by
  refine .copy fun disk place isExecutable hPlace hRooted => ?_
  have hEmptied :=
    hRooted.put_of_writable hPlace "" isExecutable
  rcases writable_eq_ok_iff.mp hPlace with
    ⟨folder, name, hNamed, -, -, rfl⟩
  rcases locate_eq_named_iff.mp hNamed with
    ⟨-, _, -, -, hFolder, -⟩
  have hNotRoot := ne_root_of_writable hPlace
  refine ⟨hEmptied, fun contents => hEmptied.put ?_ ?_⟩
  · rw [entryAt?_put disk hNotRoot, if_neg, hFolder]
    exact fun hSame => List.cons_ne_nil _ _
      (List.append_right_eq_self.mp hSame.symm)
  · rw [entryAt?_put disk hNotRoot, if_pos rfl]
    exact nofun

end Disk

end TextMate
