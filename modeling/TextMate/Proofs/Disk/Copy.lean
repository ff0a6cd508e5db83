import TextMate.Proofs.Disk.Confined

/-
  This file states what a copy of a file leaves: the text of the
  source at the target, or an empty file where these are the
  same place.

  Main declarations:
    * `Disk.textAt?`, `Disk.text?`
    * `Disk.extends_copy`
    * `Disk.HoldsCopy`
    * `Disk.HoldsCopy.of_extends`
    * `Disk.copy_eq_ok`
-/

namespace TextMate

namespace Disk

/- The text of the file at a place, if there is one. -/
def textAt?
    (disk : Disk)
    (place : Place) : Option String :=
  match disk.entryAt? place with
  | some (.file text _) => some text
  | _ => none

/- The text of the file that a path leads to. -/
def text?
    (disk : Disk)
    (path : String) : Option String :=
  match disk.resolve path with
  | .ok place => disk.textAt? place
  | .error _ => none

/- Entries that are the same hold the same text. -/
theorem textAt?_congr
    {before after : Disk}
    {place : Place}
    (hEntry : after.entryAt? place = before.entryAt? place) :
    after.textAt? place = before.textAt? place := by
  rw [textAt?, textAt?, hEntry]

/- An entry that is no folder is a file with a text. -/
theorem isSome_textAt?
    {disk : Disk}
    {place : Place}
    (hHas : disk.has place)
    (hFolder : disk.entryAt? place ≠ some .folder) :
    (disk.textAt? place).isSome := by
  rw [has] at hHas
  rw [textAt?]
  rcases hEntry : disk.entryAt? place with _ | _ | _
  · rw [hEntry] at hHas
    cases hHas
  · exact absurd hEntry hFolder
  · rfl

/- There is an entry where there is a text. -/
theorem has_of_isSome_textAt?
    {disk : Disk}
    {place : Place}
    (hText : (disk.textAt? place).isSome) :
    disk.has place := by
  rw [textAt?] at hText
  rw [has]
  rcases hEntry : disk.entryAt? place with _ | _
  · rw [hEntry] at hText
    cases hText
  · rfl

/- A path that resolves leads to the text at its place. -/
theorem text?_of_resolve
    {disk : Disk}
    {path : String}
    {place : Place}
    (hPlace : disk.resolve path = .ok place) :
    disk.text? path = disk.textAt? place := by
  rw [text?, hPlace]

variable {before after : Disk}
variable {source target : String}

/- A copy keeps all entries, whether it succeeds or fails. -/
theorem extends_copy
    (source target : String)
    (before : Disk) :
    Preserves (Extends before) (copy source target) := by
  refine .copy fun disk place isExecutable hPlace hExtends => ?_
  have hRoot := ne_root_of_writable hPlace
  have hEmptied :=
    hExtends.trans
      (extends_put hRoot (not_folder_of_writable hPlace) ""
        isExecutable)
  have hFile :
      (disk.put place (.file "" isExecutable)).entryAt? place ≠
        some .folder := by
    rw [entryAt?_put disk hRoot, if_pos rfl]
    simp
  refine ⟨hEmptied, fun contents => ?_⟩
  exact
    hEmptied.trans (extends_put hRoot hFile contents isExecutable)

/-
  The target has the text of the source, or none where both are
  the same file.
-/
def HoldsCopy
    (disk : Disk)
    (source target : String) : Prop :=
  ∃ origin place,
    disk.resolve source = .ok origin ∧
      disk.resolve target = .ok place ∧
      disk.textAt? place =
        if origin = place then some ""
        else disk.textAt? origin

/- A file that holds a copy of another one has its text. -/
theorem HoldsCopy.text?_eq
    {disk : Disk}
    (hCopy : disk.HoldsCopy source target) :
    (disk.resolve source = disk.resolve target →
      disk.text? target = some "") ∧
    (disk.resolve source ≠ disk.resolve target →
      disk.text? target = disk.text? source) := by
  rcases hCopy with ⟨origin, place, hOrigin, hPlace, hText⟩
  rw [text?_of_resolve hOrigin, text?_of_resolve hPlace,
    hOrigin, hPlace]
  constructor
  · intro hSame
    rw [hText, if_pos (Except.ok.inj hSame)]
  · intro hOther
    rw [hText, if_neg]
    rintro rfl
    exact hOther rfl

/- It holds the copy still while both texts stay. -/
theorem HoldsCopy.of_extends
    (hCopy : before.HoldsCopy source target)
    (hExtends : Extends before after)
    (hStays :
      ∀ path place, path = source ∨ path = target →
        before.resolve path = .ok place →
          after.textAt? place = before.textAt? place) :
    after.HoldsCopy source target := by
  rcases hCopy with ⟨origin, place, hOrigin, hPlace, hText⟩
  refine
    ⟨origin, place, hExtends.resolve hOrigin,
      hExtends.resolve hPlace, ?_⟩
  rw [hStays _ _ (Or.inr rfl) hPlace,
    hStays _ _ (Or.inl rfl) hOrigin]
  exact hText

/-
  A copy that succeeds leaves the text of the source at the
  target, and changes no other entry.  A file that is copied to
  itself is left empty.
-/
theorem copy_eq_ok
    (hCopy :
      outcome (copy source target) before = (.ok (), after)) :
    Extends before after ∧
      after.HoldsCopy source target ∧
        ∀ other, after.resolve target ≠ .ok other →
          after.entryAt? other = before.entryAt? other := by
  have hExtends :=
    extends_copy source target before before (.refl before)
  rw [hCopy] at hExtends
  rw [outcome_copy] at hCopy
  split at hCopy
  · cases hCopy
  · cases hCopy
  · rename_i old isExecutable hSource
    rcases find_eq_ok_iff.mp hSource with
      ⟨origin, hOrigin, hEntry⟩
    split at hCopy
    · cases hCopy
    · rename_i place hPlace
      have hRoot := ne_root_of_writable hPlace
      have hEmptied :=
        extends_put hRoot (not_folder_of_writable hPlace) ""
          isExecutable
      dsimp only at hCopy
      split at hCopy
      · cases hCopy
      · cases hCopy
      · rename_i text _ hText
        rcases find_eq_ok_iff.mp hText with
          ⟨found, hFound, hLeft⟩
        cases hFound.symm.trans (hEmptied.resolve hOrigin)
        cases hCopy
        rw [entryAt?_put before hRoot] at hLeft
        have hEntries :
            ∀ other,
              entryAt?
                  ((before.put place (.file "" isExecutable)).put
                    place (.file text isExecutable))
                  other =
                if other = place then
                  some (.file text isExecutable)
                else before.entryAt? other := by
          intro other
          rw [entryAt?_put _ hRoot, entryAt?_put _ hRoot]
          by_cases hOther : other = place <;> simp [hOther]
        have hTarget := hEntries place
        rw [if_pos rfl] at hTarget
        have hReached :=
          hExtends.resolve_of_writable hPlace
            (Option.isSome_of_eq_some hTarget)
        refine ⟨hExtends, ?_, ?_⟩
        · refine
            ⟨origin, place, hExtends.resolve hOrigin, hReached,
              ?_⟩
          by_cases hSame : origin = place
          · rw [if_pos hSame] at hLeft ⊢
            cases hLeft
            simp [textAt?, hTarget]
          · rw [if_neg hSame] at hLeft ⊢
            simp [textAt?, hTarget, hEntries, hSame, hLeft]
        · intro other hOther
          rw [hEntries, if_neg]
          rintro rfl
          exact hOther hReached

end Disk

end TextMate
