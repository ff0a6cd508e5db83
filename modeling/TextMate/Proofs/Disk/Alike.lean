import Mathlib.Data.List.Nodup
import TextMate.Proofs.Disk.Access
import TextMate.Proofs.Lookup

/-
  This file defines when two disks are alike: they have the same
  entries, which they may keep in different orders.  So they may
  list the names in a folder in any two orders, and this is all
  that tells them apart.

  Paths lead to the same places on disks that are alike, and a
  copy leaves disks that are alike again.

  Main declarations:
    * `Disk.Alike`
    * `Disk.Alike.resolve`, `Disk.Alike.writable`
    * `Disk.respects_copy`
    * `Disk.Distinct`
    * `Disk.Alike.perm_names`
    * `Disk.Distinct.exists_alike_names_eq`
-/

namespace TextMate

namespace Disk

------------------------------------------------------------
-- Disks with the Same Entries
------------------------------------------------------------

/- Two disks have the same entry at each place. -/
structure Alike
    (first second : Disk) : Prop where
  workFolder : second.workFolder = first.workFolder
  entries :
    ∀ place, second.entryAt? place = first.entryAt? place

namespace Alike

variable {first second : Disk}

theorem has
    (hAlike : Alike first second)
    (place : Place) :
    second.has place = first.has place := by
  rw [Disk.has, Disk.has, hAlike.entries]

theorem start
    (hAlike : Alike first second)
    (path : String) :
    second.start path = first.start path := by
  rw [Disk.start, Disk.start, hAlike.workFolder]

/- Walks pass the same places. -/
theorem walk
    (hAlike : Alike first second)
    (place : Place)
    (steps : List Path.Step) :
    second.walk place steps = first.walk place steps := by
  induction steps generalizing place with
  | nil => rfl
  | cons step rest ih =>
      simp only [walk_cons, hAlike.entries, hAlike.has, ih]

/- So paths resolve to the same places. -/
theorem resolve
    (hAlike : Alike first second)
    (path : String) :
    second.resolve path = first.resolve path := by
  simp only [Disk.resolve, hAlike.start, hAlike.walk,
    hAlike.entries]

theorem find
    (hAlike : Alike first second)
    (path : String) :
    second.find path = first.find path := by
  simp only [Disk.find, hAlike.resolve, hAlike.entries]

theorem isFile
    (hAlike : Alike first second)
    (path : String) :
    second.isFile path = first.isFile path := by
  rw [Disk.isFile, Disk.isFile, hAlike.find]

theorem enter
    (hAlike : Alike first second)
    (place : Place)
    (name : String) :
    second.enter place name = first.enter place name := by
  rw [Disk.enter, Disk.enter, hAlike.entries]

theorem approach
    (hAlike : Alike first second)
    (path : String) :
    second.approach path = first.approach path := by
  simp only [Disk.approach, hAlike.start, hAlike.walk,
    hAlike.enter]

theorem locate
    (hAlike : Alike first second)
    (path : String) :
    second.locate path = first.locate path := by
  rw [Disk.locate, Disk.locate, hAlike.approach]

/- The same files can be written. -/
theorem writable
    (hAlike : Alike first second)
    (path : String) :
    second.writable path = first.writable path := by
  simp only [Disk.writable, hAlike.approach, hAlike.locate,
    hAlike.entries]

/- The same entry is put on both disks. -/
theorem put
    (hAlike : Alike first second)
    {place : Place}
    (hPlace : place ≠ [])
    (entry : Entry) :
    Alike (first.put place entry) (second.put place entry) where
  workFolder := hAlike.workFolder
  entries := by
    intro other
    rw [entryAt?_put first hPlace, entryAt?_put second hPlace,
      hAlike.entries]

end Alike

/- A copy does not depend on the order of entries. -/
theorem respects_copy
    (source target : String) :
    Respects Alike (copy source target) := by
  intro first second hAlike
  rw [outcome_copy, outcome_copy, hAlike.find, hAlike.writable]
  rcases first.find source with _ | _ | ⟨_, isExecutable⟩
  · exact ⟨rfl, hAlike⟩
  · exact ⟨rfl, hAlike⟩
  · rcases hPlace : first.writable target with _ | place
    · exact ⟨rfl, hAlike⟩
    · have hRoot := ne_root_of_writable hPlace
      have hEmptied :=
        hAlike.put hRoot (.file "" isExecutable)
      simp only [hEmptied.find]
      rcases (first.put place (.file "" isExecutable)).find
        source with _ | _ | _
      · exact ⟨rfl, hEmptied⟩
      · exact ⟨rfl, hEmptied⟩
      · exact ⟨rfl, hEmptied.put hRoot _⟩

------------------------------------------------------------
-- Names in Any Order
------------------------------------------------------------

/- No place of a disk has two entries. -/
def Distinct
    (disk : Disk) : Prop :=
  (disk.entries.map Prod.fst).Nodup

instance : DecidablePred Distinct := fun disk =>
  inferInstanceAs (Decidable (disk.entries.map Prod.fst).Nodup)

/- The place of a name in a folder, and only this, has it. -/
theorem nameIn?_eq_some_iff
    {folder place : Place}
    {name : String} :
    nameIn? folder place = some name ↔
      place = folder ++ [name] := by
  constructor
  · intro hName
    unfold nameIn? at hName
    split at hName
    · split at hName
      · rename_i hPlace
        cases hName
        exact hPlace
      · cases hName
    · cases hName
  · rintro rfl
    simp [nameIn?]

/- A name is in a folder if an entry has it there. -/
theorem mem_names_iff
    {disk : Disk}
    {folder : Place}
    {name : String} :
    name ∈ disk.names folder ↔ disk.has (folder ++ [name]) := by
  have hNotRoot : folder ++ [name] ≠ [] :=
    List.append_ne_nil_of_right_ne_nil _ (List.cons_ne_nil _ _)
  rw [has, entryAt?, if_neg hNotRoot]
  constructor
  · intro hName
    rcases disk.mem_names hName with ⟨entry, hEntry⟩
    by_contra hNone
    rw [Option.not_isSome_iff_eq_none,
      List.lookup_eq_none_iff] at hNone
    simpa using hNone _ hEntry
  · intro hSome
    rcases Option.isSome_iff_exists.mp hSome with ⟨entry, hEntry⟩
    rcases List.lookup_eq_some_iff.mp hEntry with
      ⟨before, after, hEntries, -⟩
    apply disk.mem_names_of_mem
    rw [hEntries]
    exact List.mem_append_right _ List.mem_cons_self

/- A folder of a disk with distinct places has distinct names. -/
theorem Distinct.nodup_names
    {disk : Disk}
    (hDistinct : disk.Distinct)
    (folder : Place) :
    (disk.names folder).Nodup := by
  have hNames :
      disk.names folder =
        (disk.entries.map Prod.fst).filterMap
          (nameIn? folder) := by
    rw [List.filterMap_map]
    rfl
  rw [hNames]
  refine hDistinct.filterMap ?_
  intro place other name hPlace hOther
  rw [nameIn?_eq_some_iff.mp hPlace,
    nameIn?_eq_some_iff.mp hOther]

/- Disks that are alike have the same names in a folder. -/
theorem Alike.perm_names
    {first second : Disk}
    (hAlike : Alike first second)
    (hFirst : first.Distinct)
    (hSecond : second.Distinct)
    (folder : Place) :
    (second.names folder).Perm (first.names folder) := by
  rw [List.perm_ext_iff_of_nodup (hSecond.nodup_names folder)
    (hFirst.nodup_names folder)]
  intro name
  rw [mem_names_iff, mem_names_iff, hAlike.has]

/- Entries in another order make a disk that is alike. -/
theorem Distinct.alike_of_perm
    {disk : Disk}
    (hDistinct : disk.Distinct)
    {entries : List (Place × Entry)}
    (hPerm : entries.Perm disk.entries) :
    let other : Disk := { disk with entries := entries }
    other.Distinct ∧ Alike disk other := by
  intro other
  have hOther : other.Distinct :=
    (hPerm.map Prod.fst).nodup_iff.mpr hDistinct
  refine ⟨hOther, rfl, fun place => ?_⟩
  have hLookup :
      other.entries.lookup place =
        disk.entries.lookup place := by
    apply Option.ext
    intro entry
    rw [lookup_eq_some_iff_mem hOther,
      lookup_eq_some_iff_mem hDistinct]
    exact hPerm.mem_iff
  rw [entryAt?, entryAt?, hLookup]

/- What is chosen of a list is put in any order with the list. -/
theorem exists_perm_filterMap_eq
    {α β : Type}
    {choose : α → Option β}
    {items : List α}
    {order : List β}
    (hOrder : order.Perm (items.filterMap choose)) :
    ∃ others : List α, others.Perm items ∧
      others.filterMap choose = order := by
  induction items generalizing order with
  | nil => exact ⟨[], .nil, hOrder.symm.nil_eq⟩
  | cons item items ih =>
      cases hItem : choose item with
      | none =>
          rw [List.filterMap_cons_none hItem] at hOrder
          rcases ih hOrder with ⟨others, hPerm, hOthers⟩
          refine ⟨item :: others, hPerm.cons item, ?_⟩
          rw [List.filterMap_cons_none hItem, hOthers]
      | some value =>
          rw [List.filterMap_cons_some hItem] at hOrder
          -- The item goes where its value is in the order.
          rcases List.append_of_mem
              (hOrder.mem_iff.mpr List.mem_cons_self) with
            ⟨before, after, rfl⟩
          have hRest :=
            (List.perm_middle.symm.trans hOrder).cons_inv
          rcases ih hRest with ⟨others, hPerm, hOthers⟩
          rcases List.filterMap_eq_append_iff.mp hOthers with
            ⟨left, right, rfl, hLeft, hRight⟩
          refine
            ⟨left ++ item :: right,
              List.perm_middle.trans (hPerm.cons item), ?_⟩
          rw [List.filterMap_append,
            List.filterMap_cons_some hItem, hLeft, hRight]

/- A folder is listed in any order by a disk that is alike. -/
theorem Distinct.exists_alike_names_eq
    {disk : Disk}
    (hDistinct : disk.Distinct)
    {folder : Place}
    {order : List String}
    (hOrder : order.Perm (disk.names folder)) :
    ∃ other, Alike disk other ∧ other.Distinct ∧
      other.names folder = order := by
  rcases exists_perm_filterMap_eq hOrder with
    ⟨entries, hPerm, hNames⟩
  rcases hDistinct.alike_of_perm hPerm with
    ⟨hOther, hAlike⟩
  exact
    ⟨{ disk with entries := entries }, hAlike, hOther, hNames⟩

end Disk

end TextMate
