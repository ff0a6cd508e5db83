import TextMate.Proofs.Disk.Entries
import TextMate.Proofs.Disk.Path

/-
  This file states where paths lead on a disk, and that they
  lead there still when files are added or changed.

  Main declarations:
    * `Disk.walk_cons_eq_ok_iff`
    * `Disk.eq_of_walk_of_no_up`
    * `Disk.folderAt`
    * `Disk.Takes`
    * `Disk.resolve_join_eq_ok_iff`
    * `Disk.writable_eq_ok_iff`
    * `Disk.Extends`
    * `Disk.Extends.resolve`
    * `Disk.Extends.walk_of_folder`
    * `Disk.Named`
-/

namespace TextMate

/- The name that a step goes down by. -/
def Path.Step.name? : Path.Step → Option String
  | .down name => some name
  | .stay | .up => none

/- The names that steps go down by, in order. -/
def Path.descent
    (steps : List Path.Step) : List String :=
  steps.filterMap Path.Step.name?

@[simp] theorem Path.descent_append
    (first second : List Path.Step) :
    Path.descent (first ++ second) =
      Path.descent first ++ Path.descent second :=
  List.filterMap_append

@[simp] theorem Path.descent_map_down
    (names : List String) :
    Path.descent (names.map .down) = names := by
  unfold descent
  rw [List.filterMap_map]
  exact List.filterMap_some

namespace Disk

variable {disk : Disk}

------------------------------------------------------------
-- Walks
------------------------------------------------------------

/- The place that a step leads to. -/
def next
    (place : Place) : Path.Step → Place
  | .stay => place
  | .up => place.dropLast
  | .down name => place ++ [name]

/- A step down needs an entry with the name, which has a limit. -/
def Permits
    (disk : Disk)
    (place : Place) : Path.Step → Prop
  | .stay | .up => True
  | .down name =>
      ¬nameLimit < Text.byteLength name.toList ∧
        disk.has (place ++ [name])

theorem walk_cons
    (disk : Disk)
    (place : Place)
    (step : Path.Step)
    (rest : List Path.Step) :
    disk.walk place (step :: rest) =
      match disk.entryAt? place with
      | none => .error .notFound
      | some (.file _ _) => .error .notDirectory
      | some .folder =>
          match step with
          | .stay => disk.walk place rest
          | .up => disk.walk place.dropLast rest
          | .down name =>
              if nameLimit < Text.byteLength name.toList then
                .error .nameTooLong
              else if disk.has (place ++ [name]) then
                disk.walk (place ++ [name]) rest
              else .error .notFound := rfl

/- A walk takes a step in a folder and walks on from there. -/
theorem walk_cons_eq_ok_iff
    {place found : Place}
    {step : Path.Step}
    {rest : List Path.Step} :
    disk.walk place (step :: rest) = .ok found ↔
      disk.entryAt? place = some .folder ∧
        disk.Permits place step ∧
        disk.walk (next place step) rest = .ok found := by
  rw [walk_cons]
  rcases disk.entryAt? place with _ | _ | _
  · simp
  · cases step with
    | stay | up => simp [Permits, next]
    | down name =>
        simp only [Permits, next]
        by_cases hLong :
            nameLimit < Text.byteLength name.toList
        · simp [hLong]
        · by_cases hHas : disk.has (place ++ [name]) <;>
            simp [hLong, hHas]
  · simp

/- A walk along two lists of steps stops in between. -/
theorem walk_append_eq_ok_iff
    {place found : Place}
    {first second : List Path.Step} :
    disk.walk place (first ++ second) = .ok found ↔
      ∃ between, disk.walk place first = .ok between ∧
        disk.walk between second = .ok found := by
  induction first generalizing place with
  | nil => simp [walk]
  | cons step rest ih =>
      rw [List.cons_append, walk_cons_eq_ok_iff, ih]
      simp only [walk_cons_eq_ok_iff, ← exists_and_left,
        and_assoc]

/- A walk that leads to a folder starts at one. -/
theorem folder_of_walk_folder
    {place found : Place}
    {steps : List Path.Step}
    (hFolder : disk.entryAt? found = some .folder)
    (hWalk : disk.walk place steps = .ok found) :
    disk.entryAt? place = some .folder := by
  cases steps with
  | nil =>
      cases hWalk
      exact hFolder
  | cons step rest => exact (walk_cons_eq_ok_iff.mp hWalk).1

/- A walk that never goes up goes down by the names it has. -/
theorem eq_of_walk_of_no_up
    {place found : Place}
    {steps : List Path.Step}
    (hUp : .up ∉ steps)
    (hWalk : disk.walk place steps = .ok found) :
    found = place ++ Path.descent steps := by
  induction steps generalizing place with
  | nil =>
      cases hWalk
      exact (List.append_nil _).symm
  | cons step rest ih =>
      rw [List.mem_cons, not_or] at hUp
      rcases walk_cons_eq_ok_iff.mp hWalk with ⟨-, -, hRest⟩
      rw [ih hUp.2 hRest]
      cases step with
      | stay => rfl
      | up => exact absurd rfl hUp.1
      | down name => exact List.append_assoc place [name] _

------------------------------------------------------------
-- Places of Paths
------------------------------------------------------------

/- The place that the steps of a path lead to. -/
def folderAt
    (disk : Disk)
    (path : String) : Except OsError Place :=
  disk.walk (disk.start path) (Path.steps path)

/- A path that leads on from a folder starts where it does. -/
theorem start_join
    (folder : String)
    {path : String}
    (hPath : Path.isAbsolute path = false) :
    disk.start (Path.join folder path) = disk.start folder := by
  unfold start
  rw [Path.isAbsolute_join folder hPath]

/- A path that resolves is valid, and leads to its place. -/
theorem resolve_eq_ok_iff
    {path : String}
    {place : Place} :
    disk.resolve path = .ok place ↔
      pathFault? path = none ∧
        disk.folderAt path = .ok place ∧
        (Path.endsInSlash path →
          disk.entryAt? place = some .folder) := by
  unfold resolve folderAt
  cases pathFault? path with
  | some error => simp
  | none =>
      cases disk.walk (disk.start path) (Path.steps path) with
      | error cause => simp
      | ok found =>
          simp only [true_and, Except.ok.injEq]
          constructor
          · intro hResolve
            split at hResolve
            · cases hResolve
            · rename_i hFine
              cases hResolve
              rw [Bool.and_eq_true, not_and] at hFine
              refine ⟨rfl, fun hSlash => ?_⟩
              simpa using hFine hSlash
          · rintro ⟨rfl, hFolder⟩
            rw [if_neg]
            simpa using hFolder

/- A name is looked up in a folder. -/
theorem enter_eq_named_iff
    {place folder : Place}
    {name other : String} :
    disk.enter place other = .ok (.named folder name) ↔
      place = folder ∧ other = name ∧
        disk.entryAt? folder = some .folder := by
  unfold enter
  constructor
  · intro hNamed
    split at hNamed
    · cases hNamed
    · cases hNamed
    · rename_i hFolder
      cases hNamed
      exact ⟨rfl, rfl, hFolder⟩
  · rintro ⟨rfl, rfl, hFolder⟩
    rw [hFolder]

/-
  The system takes a name in a folder: the path of the entry can
  be one, and the name is not too long.
-/
def Takes
    (folder name : String) : Prop :=
  pathFault? (Path.join folder name) = none ∧
    ¬nameLimit < Text.byteLength name.toList

/- A name in a folder resolves if there is an entry with it. -/
theorem resolve_join_eq_ok_iff
    {folder name : String}
    {place : Place}
    (hName : Path.IsName name) :
    disk.resolve (Path.join folder name) = .ok place ↔
      Takes folder name ∧
        ∃ base, disk.folderAt folder = .ok base ∧
          disk.entryAt? base = some .folder ∧
          disk.has (base ++ [name]) ∧
          place = base ++ [name] := by
  rw [resolve_eq_ok_iff, hName.endsInSlash_join, folderAt,
    Path.steps_join folder hName.isAbsolute_eq,
    start_join folder hName.isAbsolute_eq, hName.steps_eq,
    walk_append_eq_ok_iff]
  simp only [walk_cons_eq_ok_iff, Permits, next, Takes,
    folderAt]
  constructor
  · rintro ⟨hFault, ⟨base, hBase, hFolder, hPermits, hEnd⟩, -⟩
    cases hEnd
    exact
      ⟨⟨hFault, hPermits.1⟩, base, hBase, hFolder, hPermits.2,
        rfl⟩
  · rintro ⟨⟨hFault, hShort⟩, base, hBase, hFolder, hHas, rfl⟩
    exact
      ⟨hFault, ⟨base, hBase, hFolder, ⟨hShort, hHas⟩, rfl⟩,
        nofun⟩

/- So it resolves to a place with the name. -/
theorem getLast?_of_resolve_join
    {folder name : String}
    {place : Place}
    (hName : Path.IsName name)
    (hPlace :
      disk.resolve (Path.join folder name) = .ok place) :
    place.getLast? = some name := by
  rcases (resolve_join_eq_ok_iff hName).mp hPlace with
    ⟨-, base, -, -, -, rfl⟩
  exact List.getLast?_concat

/- A path leads to a name if its last step is the name. -/
theorem approach_eq_named_iff
    {path name : String}
    {folder : Place} :
    disk.approach path = .ok (.named folder name) ↔
      pathFault? path = none ∧
        ∃ before,
          Path.steps path = before ++ [Path.Step.down name] ∧
          disk.walk (disk.start path) before = .ok folder ∧
          disk.entryAt? folder = some .folder := by
  unfold approach
  cases pathFault? path with
  | some error => simp
  | none =>
      simp only [true_and]
      rcases List.eq_nil_or_concat (Path.steps path) with
        hSteps | ⟨before, last, hSteps⟩
      · simp [hSteps]
      · rw [hSteps]
        simp only [List.concat_eq_append,
          List.getLast?_concat, List.dropLast_concat,
          List.append_singleton_inj]
        cases last with
        | stay =>
            cases disk.walk (disk.start path)
                (before ++ [Path.Step.stay]) <;>
              simp [Except.map]
        | up =>
            cases disk.walk (disk.start path)
                (before ++ [Path.Step.up]) <;>
              simp [Except.map]
        | down other =>
            cases hWalk : disk.walk (disk.start path) before with
            | error cause =>
                simp only [Except.bind, reduceCtorEq, false_iff]
                rintro ⟨_, ⟨rfl, -⟩, hFound, -⟩
                cases hWalk.symm.trans hFound
            | ok place =>
                simp only [Except.bind, enter_eq_named_iff,
                  Path.Step.down.injEq]
                constructor
                · rintro ⟨rfl, rfl, hFolder⟩
                  exact ⟨before, ⟨rfl, rfl⟩, hWalk, hFolder⟩
                · rintro ⟨_, ⟨rfl, rfl⟩, hFound, hFolder⟩
                  cases hWalk.symm.trans hFound
                  exact ⟨rfl, rfl, hFolder⟩

/- Only a name that is not too long is taken. -/
theorem check_eq_named_iff
    {target : Target}
    {folder : Place}
    {name : String} :
    target.check = .ok (.named folder name) ↔
      target = .named folder name ∧
        ¬nameLimit < Text.byteLength name.toList := by
  unfold Target.check
  constructor
  · intro hNamed
    split at hNamed
    · split at hNamed
      · cases hNamed
      · rename_i hShort
        cases hNamed
        exact ⟨rfl, hShort⟩
    · rename_i hOther
      cases hNamed
      exact absurd rfl (hOther folder name)
  · rintro ⟨rfl, hShort⟩
    exact if_neg hShort

/- A path leads to an entry of a name that is taken. -/
theorem locate_eq_named_iff
    {path name : String}
    {folder : Place} :
    disk.locate path = .ok (.named folder name) ↔
      pathFault? path = none ∧
        ∃ before,
          Path.steps path = before ++ [Path.Step.down name] ∧
          disk.walk (disk.start path) before = .ok folder ∧
          disk.entryAt? folder = some .folder ∧
          ¬nameLimit < Text.byteLength name.toList := by
  have hLocate :
      disk.locate path = .ok (.named folder name) ↔
        disk.approach path = .ok (.named folder name) ∧
          ¬nameLimit < Text.byteLength name.toList := by
    unfold locate
    cases disk.approach path with
    | error error => simp [Except.bind]
    | ok target =>
        rw [Except.bind, check_eq_named_iff, Except.ok.injEq]
  rw [hLocate, approach_eq_named_iff]
  constructor
  · rintro ⟨⟨hFault, before, hSteps, hWalk, hFolder⟩, hShort⟩
    exact
      ⟨hFault, before, hSteps, hWalk, hFolder, hShort⟩
  · rintro ⟨hFault, before, hSteps, hWalk, hFolder, hShort⟩
    exact
      ⟨⟨hFault, before, hSteps, hWalk, hFolder⟩, hShort⟩

/- A file can be written where a path leads to a name. -/
theorem writable_eq_ok_iff
    {path : String}
    {place : Place} :
    disk.writable path = .ok place ↔
      ∃ folder name,
        disk.locate path = .ok (.named folder name) ∧
          Path.endsInSlash path = false ∧
          disk.entryAt? place ≠ some .folder ∧
          place = folder ++ [name] := by
  unfold writable
  split
  · rename_i hSlash
    simp only [hSlash, reduceCtorEq, false_and, and_false,
      exists_false, iff_false]
    rcases disk.approach path with _ | _ <;> exact nofun
  · rename_i hSlash
    rcases disk.locate path with _ | ⟨folder, name⟩ | _ | _ | _
    · simp
    · simp only [Except.ok.injEq, Target.named.injEq]
      constructor
      · intro hPlace
        split at hPlace
        · cases hPlace
        · rename_i hFolder
          cases hPlace
          exact
            ⟨_, _, ⟨rfl, rfl⟩, Bool.not_eq_true _ ▸ hSlash,
              hFolder, rfl⟩
      · rintro ⟨_, _, ⟨rfl, rfl⟩, -, hFolder, rfl⟩
        exact if_neg hFolder
    · simp
    · simp
    · simp

/- A file is never written at the root. -/
theorem ne_root_of_writable
    {path : String}
    {place : Place}
    (hPlace : disk.writable path = .ok place) :
    place ≠ [] := by
  rcases writable_eq_ok_iff.mp hPlace with
    ⟨folder, name, -, -, -, rfl⟩
  exact
    List.append_ne_nil_of_right_ne_nil _
      (List.cons_ne_nil _ _)

/- Nor is it written where there is a folder. -/
theorem not_folder_of_writable
    {path : String}
    {place : Place}
    (hPlace : disk.writable path = .ok place) :
    disk.entryAt? place ≠ some .folder := by
  rcases writable_eq_ok_iff.mp hPlace with
    ⟨_, _, -, -, hFolder, -⟩
  exact hFolder

/- An entry is found at the place that a path resolves to. -/
theorem find_eq_ok_iff
    {path : String}
    {entry : Entry} :
    disk.find path = .ok entry ↔
      ∃ place, disk.resolve path = .ok place ∧
        disk.entryAt? place = some entry := by
  unfold find
  rcases disk.resolve path with _ | place
  · simp
  · cases hEntry : disk.entryAt? place with
    | none => simp [hEntry]
    | some found => simp [hEntry]

------------------------------------------------------------
-- Disks with More Files
------------------------------------------------------------

/- All entries of a disk stay, and the folders are the same. -/
structure Extends
    (before after : Disk) : Prop where
  workFolder : after.workFolder = before.workFolder
  folders :
    ∀ place,
      after.entryAt? place = some .folder ↔
        before.entryAt? place = some .folder
  kept : ∀ place, before.has place → after.has place

namespace Extends

variable {before after later : Disk}

theorem refl
    (disk : Disk) :
    Extends disk disk :=
  ⟨rfl, fun _ => Iff.rfl, fun _ hHas => hHas⟩

theorem trans
    (hFirst : Extends before after)
    (hSecond : Extends after later) :
    Extends before later where
  workFolder := hSecond.workFolder.trans hFirst.workFolder
  folders := fun place =>
    (hSecond.folders place).trans (hFirst.folders place)
  kept := fun place hHas =>
    hSecond.kept place (hFirst.kept place hHas)

theorem start
    (hExtends : Extends before after)
    (path : String) :
    after.start path = before.start path := by
  unfold Disk.start
  rw [hExtends.workFolder]

/- A walk leads to the same place. -/
theorem walk
    (hExtends : Extends before after)
    {place found : Place}
    {steps : List Path.Step}
    (hWalk : before.walk place steps = .ok found) :
    after.walk place steps = .ok found := by
  induction steps generalizing place with
  | nil => exact hWalk
  | cons step rest ih =>
      rcases walk_cons_eq_ok_iff.mp hWalk with
        ⟨hFolder, hPermits, hRest⟩
      refine
        walk_cons_eq_ok_iff.mpr
          ⟨(hExtends.folders place).mpr hFolder, ?_, ih hRest⟩
      cases step with
      | stay | up => trivial
      | down name =>
          exact ⟨hPermits.1, hExtends.kept _ hPermits.2⟩

/- It led to a folder before if it does now. -/
theorem walk_of_folder
    (hExtends : Extends before after)
    {place found : Place}
    {steps : List Path.Step}
    (hFolder : after.entryAt? found = some .folder)
    (hWalk : after.walk place steps = .ok found) :
    before.walk place steps = .ok found := by
  induction steps generalizing place with
  | nil => exact hWalk
  | cons step rest ih =>
      rcases walk_cons_eq_ok_iff.mp hWalk with
        ⟨hPlace, hPermits, hRest⟩
      have hNext := folder_of_walk_folder hFolder hRest
      refine
        walk_cons_eq_ok_iff.mpr
          ⟨(hExtends.folders place).mp hPlace, ?_, ih hRest⟩
      cases step with
      | stay | up => trivial
      | down name =>
          have hBefore := (hExtends.folders _).mp hNext
          exact
            ⟨hPermits.1, Option.isSome_of_eq_some hBefore⟩

theorem folderAt
    (hExtends : Extends before after)
    {path : String}
    {place : Place}
    (hPlace : before.folderAt path = .ok place) :
    after.folderAt path = .ok place := by
  unfold Disk.folderAt
  rw [hExtends.start]
  exact hExtends.walk hPlace

theorem folderAt_of_folder
    (hExtends : Extends before after)
    {path : String}
    {place : Place}
    (hFolder : after.entryAt? place = some .folder)
    (hPlace : after.folderAt path = .ok place) :
    before.folderAt path = .ok place := by
  unfold Disk.folderAt at hPlace ⊢
  rw [hExtends.start] at hPlace
  exact hExtends.walk_of_folder hFolder hPlace

/- A path resolves to the same place. -/
theorem resolve
    (hExtends : Extends before after)
    {path : String}
    {place : Place}
    (hPlace : before.resolve path = .ok place) :
    after.resolve path = .ok place := by
  rcases resolve_eq_ok_iff.mp hPlace with
    ⟨hFault, hFound, hSlash⟩
  exact
    resolve_eq_ok_iff.mpr
      ⟨hFault, hExtends.folderAt hFound, fun hEnds =>
        (hExtends.folders place).mpr (hSlash hEnds)⟩

/- A file that is put where it can be is reached there. -/
theorem resolve_of_writable
    (hExtends : Extends before after)
    {path : String}
    {place : Place}
    (hPlace : before.writable path = .ok place)
    (hHas : after.has place) :
    after.resolve path = .ok place := by
  rcases writable_eq_ok_iff.mp hPlace with
    ⟨folder, name, hNamed, hSlash, -, rfl⟩
  rcases locate_eq_named_iff.mp hNamed with
    ⟨hFault, steps, hSteps, hWalk, hFolder, hShort⟩
  refine
    resolve_eq_ok_iff.mpr
      ⟨hFault, ?_, fun hEnds => ?_⟩
  · rw [Disk.folderAt, hSteps, walk_append_eq_ok_iff]
    refine ⟨folder, ?_, ?_⟩
    · rw [hExtends.start]
      exact hExtends.walk hWalk
    · exact
        walk_cons_eq_ok_iff.mpr
          ⟨(hExtends.folders folder).mpr hFolder,
            ⟨hShort, hHas⟩, rfl⟩
  · rw [hSlash] at hEnds
    cases hEnds

end Extends

/- A file that is put where there is no folder adds to a disk. -/
theorem extends_put
    {place : Place}
    (hPlace : place ≠ [])
    (hFolder : disk.entryAt? place ≠ some .folder)
    (contents : String)
    (isExecutable : Bool) :
    Extends disk
      (disk.put place (.file contents isExecutable)) where
  workFolder := rfl
  folders := by
    intro other
    rw [entryAt?_put disk hPlace]
    by_cases hOther : other = place
    · simp [hOther, hFolder]
    · simp [hOther]
  kept := by
    intro other hHas
    unfold has at hHas ⊢
    rw [entryAt?_put disk hPlace]
    by_cases hOther : other = place
    · simp [hOther]
    · simpa [hOther] using hHas

------------------------------------------------------------
-- Names
------------------------------------------------------------

/- Every entry of a disk has a name that can be one. -/
def Named
    (disk : Disk) : Prop :=
  ∀ item ∈ disk.entries, ∀ name ∈ item.1.getLast?,
    Path.IsName name

instance : DecidablePred Named := fun disk =>
  inferInstanceAs
    (Decidable
      (∀ item ∈ disk.entries, ∀ name ∈ item.1.getLast?,
        Path.IsName name))

namespace Named

/- The names in a folder are names. -/
theorem isName
    (hNamed : disk.Named)
    {folder : Place}
    {name : String}
    (hName : name ∈ disk.names folder) :
    Path.IsName name := by
  rcases disk.mem_names hName with ⟨entry, hEntry⟩
  exact hNamed _ hEntry name List.getLast?_concat

/- An entry with a name keeps a disk named. -/
theorem put
    (hNamed : disk.Named)
    {folder : Place}
    {name : String}
    (hName : Path.IsName name)
    (entry : Entry) :
    (disk.put (folder ++ [name]) entry).Named := by
  intro item hItem other hOther
  rcases mem_putEntry hItem with rfl | hOld
  · rw [List.getLast?_concat] at hOther
    cases hOther
    exact hName
  · exact hNamed item hOld other hOther

/- What is left of a disk stays named. -/
theorem clearBelow
    (hNamed : disk.Named)
    (folder : Place) :
    (disk.clearBelow folder).Named :=
  fun item hItem => hNamed item (List.mem_filter.mp hItem).1

theorem erase
    (hNamed : disk.Named)
    (place : Place) :
    (disk.erase place).Named :=
  fun item hItem => hNamed item (List.mem_filter.mp hItem).1

end Named

end Disk

end TextMate
