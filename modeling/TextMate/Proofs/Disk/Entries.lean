import TextMate.Disk.Access

/-
  This file states what the entries of a disk are after one of
  them is put, erased, or what is below it is cleared.

  Main declarations:
    * `Disk.entryAt?_put`
    * `Disk.entryAt?_clearBelow`
    * `Disk.entryAt?_erase`
    * `Disk.mem_names`
-/

namespace TextMate

namespace Disk

------------------------------------------------------------
-- Lists of Entries
------------------------------------------------------------

/- The entry of a list for a place, by whether it is the first. -/
theorem lookup_cons_eq_ite
    (place other : Place)
    (entry : Entry)
    (entries : List (Place × Entry)) :
    List.lookup other ((place, entry) :: entries) =
      if other = place then some entry
      else entries.lookup other := by
  rw [List.lookup_cons]
  cases hPlace : other == place with
  | true => rw [if_pos (eq_of_beq hPlace)]
  | false => rw [if_neg (ne_of_beq_false hPlace)]

/- An entry that is put in a list is found at its place. -/
theorem lookup_putEntry
    (place other : Place)
    (entry : Entry)
    (entries : List (Place × Entry)) :
    (putEntry place entry entries).lookup other =
      if other = place then some entry
      else entries.lookup other := by
  induction entries with
  | nil => exact lookup_cons_eq_ite place other entry []
  | cons first rest ih =>
      rcases first with ⟨present, old⟩
      rw [putEntry, lookup_cons_eq_ite]
      by_cases hPresent : present = place
      · rw [if_pos hPresent, lookup_cons_eq_ite, hPresent]
        by_cases hOther : other = place <;> simp [hOther]
      · rw [if_neg hPresent, lookup_cons_eq_ite, ih]
        by_cases hOther : other = present
        · simp [hOther, hPresent]
        · simp [hOther]

/- Entries are found among those that are kept by their place. -/
theorem lookup_filter
    (keep : Place → Bool)
    (place : Place)
    (entries : List (Place × Entry)) :
    (entries.filter fun item => keep item.1).lookup place =
      if keep place then entries.lookup place else none := by
  induction entries with
  | nil => simp
  | cons first rest ih =>
      rcases first with ⟨present, entry⟩
      rw [List.filter_cons, lookup_cons_eq_ite]
      by_cases hPlace : place = present
      · subst hPlace
        cases hKeep : keep place with
        | true => simp
        | false => simpa [hKeep] using ih
      · rw [if_neg hPlace, ← ih]
        split
        · rw [lookup_cons_eq_ite, if_neg hPlace]
        · rfl

/- An entry that is put in a list is there with the others. -/
theorem mem_putEntry
    {place : Place}
    {entry : Entry}
    {entries : List (Place × Entry)}
    {item : Place × Entry}
    (hItem : item ∈ putEntry place entry entries) :
    item = (place, entry) ∨ item ∈ entries := by
  induction entries with
  | nil => exact Or.inl (List.mem_singleton.mp hItem)
  | cons first rest ih =>
      rcases first with ⟨present, old⟩
      rw [putEntry] at hItem
      split at hItem
      · exact
          (List.mem_cons.mp hItem).imp_right
            (List.mem_cons_of_mem _)
      · rcases List.mem_cons.mp hItem with rfl | hRest
        · exact Or.inr List.mem_cons_self
        · exact (ih hRest).imp_right (List.mem_cons_of_mem _)

------------------------------------------------------------
-- Entries of Disks
------------------------------------------------------------

variable (disk : Disk)

/- An entry that is put is found at its place alone. -/
theorem entryAt?_put
    {place : Place}
    (hPlace : place ≠ [])
    (entry : Entry)
    (other : Place) :
    (disk.put place entry).entryAt? other =
      if other = place then some entry
      else disk.entryAt? other := by
  unfold entryAt? put
  by_cases hRoot : other = []
  · subst hRoot
    simp [hPlace.symm]
  · simp [hRoot, lookup_putEntry]

/- A folder is cleared of what is below it. -/
theorem entryAt?_clearBelow
    (folder other : Place) :
    (disk.clearBelow folder).entryAt? other =
      if isWithin other folder ∧ other ≠ folder then none
      else disk.entryAt? other := by
  unfold entryAt? clearBelow
  by_cases hRoot : other = []
  · subst hRoot
    simp only [if_true]
    rw [if_neg]
    rintro ⟨hWithin, hOther⟩
    rw [isWithin, List.isPrefixOf_iff_prefix,
      List.prefix_nil] at hWithin
    exact hOther hWithin.symm
  · simp only [hRoot, if_false]
    rw [lookup_filter fun place =>
      !(isWithin place folder && place != folder)]
    by_cases hWithin : isWithin other folder <;>
      by_cases hOther : other = folder <;>
      simp [hWithin, hOther]

/- An entry that is erased is gone, and no other. -/
theorem entryAt?_erase
    {place : Place}
    (hPlace : place ≠ [])
    (other : Place) :
    (disk.erase place).entryAt? other =
      if other = place then none else disk.entryAt? other := by
  unfold entryAt? erase
  by_cases hRoot : other = []
  · subst hRoot
    simp [hPlace.symm]
  · simp only [hRoot, if_false]
    rw [lookup_filter fun other => other != place]
    by_cases hOther : other = place <;> simp [hOther]

/- An entry has a name in its folder. -/
theorem mem_names_of_mem
    {folder : Place}
    {name : String}
    {entry : Entry}
    (hEntry : (folder ++ [name], entry) ∈ disk.entries) :
    name ∈ disk.names folder := by
  refine List.mem_filterMap.mpr ⟨_, hEntry, ?_⟩
  simp [nameIn?]

/- A name in a folder is that of an entry. -/
theorem mem_names
    {folder : Place}
    {name : String}
    (hName : name ∈ disk.names folder) :
    ∃ entry, (folder ++ [name], entry) ∈ disk.entries := by
  rcases List.mem_filterMap.mp hName with
    ⟨⟨place, entry⟩, hEntry, hIn⟩
  simp only [nameIn?] at hIn
  split at hIn
  · split at hIn
    · rename_i hPlace
      cases hIn
      exact ⟨entry, hPlace ▸ hEntry⟩
    · cases hIn
  · cases hIn

end Disk

end TextMate
