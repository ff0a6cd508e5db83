import TextMate.Proofs.Disk.Walk

/-
  This file states which paths are too long.  A folder has paths
  of any length, as slashes at the end of a path lead nowhere
  else.  So a path may lead to a folder but be too long to go
  on from there.

  Main declarations:
    * `Path.slashed`
    * `Path.byteLength_le_join`
    * `Disk.pathFault?_eq_none_iff`
    * `Disk.resolve_slashed`
    * `Disk.not_takes_slashed`
-/

namespace TextMate

------------------------------------------------------------
-- Bytes of Paths
------------------------------------------------------------

namespace Text

theorem byteLength_append
    (first second : List Char) :
    byteLength (first ++ second) =
      byteLength first + byteLength second := by
  induction first with
  | nil => exact (Nat.zero_add _).symm
  | cons c rest ih =>
      have hBoth :
          c.utf8Size + byteLength (rest ++ second) =
            c.utf8Size + byteLength rest +
              byteLength second := by
        rw [ih, Nat.add_assoc]
      exact hBoth

end Text

namespace Path

/- A path with slashes behind it, which lead nowhere else. -/
def slashed
    (path : String) : Nat → String
  | 0 => path
  | count + 1 => slashed path count ++ "/"

theorem steps_slashed
    (path : String)
    (count : Nat) :
    steps (slashed path count) = steps path := by
  induction count with
  | zero => rfl
  | succ count ih =>
      have hSteps := steps_append_slash (slashed path count) ""
      rw [String.append_empty, ih] at hSteps
      exact hSteps.trans (List.append_nil _)

theorem toList_slashed
    (path : String)
    (count : Nat) :
    (slashed path count).toList =
      path.toList ++ List.replicate count '/' := by
  induction count with
  | zero => exact (List.append_nil _).symm
  | succ count ih =>
      rw [slashed, String.toList_append, ih,
        List.replicate_succ', List.append_assoc]
      rfl

theorem byteLength_slashed
    (path : String)
    (count : Nat) :
    Text.byteLength (slashed path count).toList =
      Text.byteLength path.toList + count := by
  induction count with
  | zero => rfl
  | succ count ih =>
      rw [slashed, String.toList_append, Text.byteLength_append,
        ih, Nat.add_assoc]
      rfl

/- A path in a folder has the bytes of the folder and its own. -/
theorem byteLength_le_join
    (folder : String)
    {path : String}
    (hPath : isAbsolute path = false) :
    Text.byteLength folder.toList +
        Text.byteLength path.toList ≤
      Text.byteLength (join folder path).toList := by
  unfold join
  rw [hPath, Bool.false_or]
  split
  · rename_i hEmpty
    rw [eq_of_beq hEmpty]
    exact Nat.le_of_eq (Nat.zero_add _)
  · split
    · exact
        Nat.le_of_eq
          (by rw [String.toList_append, Text.byteLength_append])
    · simp only [String.toList_append, Text.byteLength_append]
      omega

end Path

namespace Disk

------------------------------------------------------------
-- Paths That Fit
------------------------------------------------------------

/- A text can be a path if it is not too long, nor odd. -/
theorem pathFault?_eq_none_iff
    {path : String} :
    pathFault? path = none ↔
      '\x00' ∉ path.toList ∧ path ≠ "" ∧
        Text.byteLength path.toList ≤ pathLimit := by
  unfold pathFault?
  by_cases hNul : '\x00' ∈ path.toList
  · simp [hNul]
  · by_cases hEmpty : path = ""
    · simp [hEmpty]
    · simp [hNul, hEmpty]

/- A path to a folder leads there with slashes that fit. -/
theorem resolve_slashed
    {disk : Disk}
    {folder : String}
    {source : Place}
    {count : Nat}
    (hSource : disk.resolve folder = .ok source)
    (hFolder : disk.entryAt? source = some .folder)
    (hFits :
      Text.byteLength folder.toList + count ≤ pathLimit) :
    disk.resolve (Path.slashed folder count) = .ok source := by
  rcases resolve_eq_ok_iff.mp hSource with ⟨hFault, hAt, -⟩
  rcases pathFault?_eq_none_iff.mp hFault with
    ⟨hNul, hSome, -⟩
  have hText : folder.toList ≠ [] := fun hNone =>
    hSome (String.toList_injective hNone)
  refine
    resolve_eq_ok_iff.mpr
      ⟨pathFault?_eq_none_iff.mpr ⟨?_, ?_, ?_⟩, ?_,
        fun _ => hFolder⟩
  · rw [Path.toList_slashed, List.mem_append, not_or]
    refine ⟨hNul, fun hSlash => ?_⟩
    exact absurd (List.eq_of_mem_replicate hSlash) (by decide)
  · intro hEmpty
    have hList := Path.toList_slashed folder count
    rw [hEmpty] at hList
    exact hText (List.append_eq_nil_iff.mp hList.symm).1
  · rw [Path.byteLength_slashed]
    exact hFits
  · have hStart :
        disk.start (Path.slashed folder count) =
          disk.start folder := by
      unfold start Path.isAbsolute
      rw [Path.toList_slashed, List.head?_append,
        List.head?_eq_some_head hText]
      rfl
    rw [folderAt, hStart, Path.steps_slashed]
    exact hAt

/- No name is taken there if it fits no more. -/
theorem not_takes_slashed
    {folder name : String}
    {count : Nat}
    (hName : Path.IsName name)
    (hLong :
      pathLimit <
        Text.byteLength folder.toList + count +
          Text.byteLength name.toList) :
    ¬Takes (Path.slashed folder count) name := by
  intro hTakes
  have hFits := (pathFault?_eq_none_iff.mp hTakes.1).2.2
  have hJoin :=
    Path.byteLength_le_join (Path.slashed folder count)
      hName.isAbsolute_eq
  rw [Path.byteLength_slashed] at hJoin
  omega

end Disk

end TextMate
