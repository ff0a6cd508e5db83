import TextMate.Proofs.Build.GrammarFile
import TextMate.Proofs.Disk.LongPath

/-
  This file states what copying the configuration files of a
  folder leaves, if it succeeds: every file with the extension
  has its text under its name in the other folder, and nothing
  else changes.

  A file is passed over if the path to it is longer than paths
  may be, though its folder could be listed.  Otherwise the
  copies are all files of the folder with the extension, in the
  order of the bytes of their names, whatever the order is in
  which the folder is listed.

  Main declarations:
    * `isConfig_iff`
    * `CopiesConfigs`
    * `copiesConfigs_of_copyConfigs`
    * `copyConfigs_unordered`
    * `slashedFolder_passes_over`
-/

namespace TextMate

------------------------------------------------------------
-- Files That Are Chosen
------------------------------------------------------------

/- A path leads to a file if there is a text at its place. -/
theorem Disk.isFile_iff
    {disk : Disk}
    {path : String} :
    disk.isFile path ↔
      ∃ place, disk.resolve path = .ok place ∧
        (disk.textAt? place).isSome := by
  unfold isFile find
  rcases disk.resolve path with _ | place
  · simp
  · simp only [Except.ok.injEq, exists_eq_left', textAt?]
    rcases disk.entryAt? place with _ | _ | _ <;> simp

/-
  A file of a folder is to be copied if it has the extension and
  the system takes its path.
-/
theorem isConfig_iff
    {disk : Disk}
    {folder name : String}
    {source : Disk.Place}
    (hName : Path.IsName name)
    (hSource : disk.folderAt folder = .ok source)
    (hFolder : disk.entryAt? source = some .folder) :
    isConfig disk folder name ↔
      (disk.textAt? (source ++ [name])).isSome ∧
        Path.IsExtension configExtension name ∧
        Disk.Takes folder name := by
  have hDot : '.' ∉ configExtension.toList := by
    decide
  rw [isConfig, Bool.and_eq_true, Path.hasExtension_iff hDot,
    Disk.isFile_iff]
  simp only [Disk.resolve_join_eq_ok_iff hName]
  constructor
  · rintro ⟨⟨_, ⟨hTakes, base, hBase, -, -, rfl⟩, hText⟩,
      hExtension⟩
    cases hSource.symm.trans hBase
    exact ⟨hText, hExtension, hTakes⟩
  · rintro ⟨hText, hExtension, hTakes⟩
    have hHas : disk.has (source ++ [name]) :=
      Disk.has_of_isSome_textAt? hText
    exact
      ⟨⟨_, ⟨hTakes, source, hSource, hFolder, hHas, rfl⟩,
        hText⟩, hExtension⟩

/- The names that are chosen of those in a folder. -/
theorem mem_configNames_names_iff
    {disk : Disk}
    {folder : String}
    {source : Disk.Place}
    (hNamed : disk.Named)
    (hSource : disk.folderAt folder = .ok source)
    (hFolder : disk.entryAt? source = some .folder)
    (name : String) :
    name ∈ configNames disk folder (disk.names source) ↔
      (disk.textAt? (source ++ [name])).isSome ∧
        Path.IsExtension configExtension name ∧
        Disk.Takes folder name := by
  rw [mem_configNames_iff]
  constructor
  · rintro ⟨hName, hConfig⟩
    exact
      (isConfig_iff (hNamed.isName hName) hSource hFolder).mp
        hConfig
  · intro hChosen
    have hName : name ∈ disk.names source :=
      Disk.mem_names_iff.mpr
        (Disk.has_of_isSome_textAt? hChosen.1)
    exact
      ⟨hName,
        (isConfig_iff (hNamed.isName hName) hSource
          hFolder).mpr hChosen⟩

/- Then the files that are chosen are copied. -/
theorem outcome_copyConfigs_of_chosen
    {folder : String}
    (outFolder : String)
    (workspace : Workspace)
    {source : Disk.Place}
    {names : List String}
    (hSource : workspace.disk.resolve folder = .ok source)
    (hFolder : workspace.disk.entryAt? source = some .folder)
    (hChosen :
      configNames workspace.disk folder
        (workspace.disk.names source) = names) :
    outcome (copyConfigs folder outFolder) workspace =
      outcome
        (runBatch
          (names.map fun name =>
            .copy (Path.join folder name)
              (Path.join outFolder name)))
        workspace := by
  have hListed :
      listFolder workspace.disk folder =
        .ok (workspace.disk.names source) :=
    listFolder_eq_ok_iff.mpr ⟨source, hSource, hFolder, rfl⟩
  rw [outcome_copyConfigs, hListed, ← hChosen]
  rfl

------------------------------------------------------------
-- Copies in Another Folder
------------------------------------------------------------

/- No name in another folder leads to a place in this one. -/
theorem resolve_join_ne_of_apart
    {before after : Disk}
    {outFolder name other : String}
    {source : Disk.Place}
    (hExtends : Disk.Extends before after)
    (hName : Path.IsName name)
    (hApart : before.folderAt outFolder ≠ .ok source) :
    after.resolve (Path.join outFolder name) ≠
      .ok (source ++ [other]) := by
  intro hResolve
  rcases (Disk.resolve_join_eq_ok_iff hName).mp hResolve with
    ⟨-, target, hTarget, hFolder, -, hPlace⟩
  have hSame : source = target :=
    (List.append_inj' hPlace rfl).1
  apply hApart
  rw [hSame]
  exact hExtends.folderAt_of_folder hFolder hTarget

/- Each copy in another folder has the text of its source. -/
theorem text?_of_completes_copies
    {folder outFolder : String}
    {source : Disk.Place}
    {names : List String}
    {before after : Disk}
    (hSource : before.folderAt folder = .ok source)
    (hApart : before.folderAt outFolder ≠ .ok source)
    (hNames : ∀ name ∈ names, Path.IsName name)
    (hDone :
      Completes
        (names.map fun name =>
          .copy (Path.join folder name)
            (Path.join outFolder name))
        before after) :
    ∀ name ∈ names,
      after.text? (Path.join outFolder name) =
        before.textAt? (source ++ [name]) := by
  rcases completes_copies hNames hDone with
    ⟨hExtends, hSame, hCopies⟩
  intro name hName
  rcases hCopies name hName with
    ⟨origin, place, hOrigin, hPlace, hText⟩
  rcases (Disk.resolve_join_eq_ok_iff (hNames name hName)).mp
      hOrigin with
    ⟨-, base, hBase, -, -, rfl⟩
  cases hBase.symm.trans (hExtends.folderAt hSource)
  -- No copy goes to its source, so this has its text still.
  have hKept :
      ∀ other ∈ names,
        after.resolve (Path.join outFolder other) ≠
          .ok (source ++ [name]) :=
    fun other hOther =>
      resolve_join_ne_of_apart hExtends (hNames other hOther)
        hApart
  have hDiffers : source ++ [name] ≠ place := by
    rintro rfl
    exact hKept name hName hPlace
  rw [Disk.text?_of_resolve hPlace, hText, if_neg hDiffers]
  exact Disk.textAt?_congr (hSame _ hKept)

/-
  The files that are copied from a folder to another, by their
  names: each name once and in the order of its bytes, each with
  the text it had, and with no other change.
-/
structure CopiesConfigs
    (folder outFolder : String)
    (source : Disk.Place)
    (before after : Disk)
    (names : List String) : Prop where
  sorted :
    names.Pairwise fun x y => Text.bytes x < Text.bytes y
  chosen :
    ∀ name, name ∈ names ↔
      (before.textAt? (source ++ [name])).isSome ∧
        Path.IsExtension configExtension name ∧
        Disk.Takes folder name
  texts :
    ∀ name ∈ names,
      after.text? (Path.join outFolder name) =
        before.textAt? (source ++ [name])
  others :
    ∀ place,
      (∀ name ∈ names,
        after.resolve (Path.join outFolder name) ≠
          .ok place) →
        after.entryAt? place = before.entryAt? place

/- A copy that succeeds goes from its folder to another one. -/
theorem copiesConfigs_of_copyConfigs
    {folder outFolder : String}
    {workspace after : Workspace}
    {copied : List String}
    (hNamed : workspace.disk.Named)
    (hDistinct : workspace.disk.Distinct)
    (hApart :
      ∀ source, workspace.disk.resolve folder = .ok source →
        workspace.disk.folderAt outFolder ≠ .ok source)
    (hRun :
      outcome (copyConfigs folder outFolder) workspace =
        (.ok copied, after)) :
    ∃ source names,
      workspace.disk.resolve folder = .ok source ∧
        copied = names.map (Path.join outFolder) ∧
        CopiesConfigs folder outFolder source workspace.disk
          after.disk names := by
  rcases completes_of_copyConfigs hRun with
    ⟨listed, hListed, rfl, hDone⟩
  rcases listFolder_eq_ok_iff.mp hListed with
    ⟨source, hResolve, hFolder, rfl⟩
  have hSource := (Disk.resolve_eq_ok_iff.mp hResolve).2.1
  rw [copyJobs_eq_map] at hDone ⊢
  have hNames :
      ∀ name ∈ configNames workspace.disk folder
          (workspace.disk.names source),
        Path.IsName name :=
    fun _ => isName_of_mem_configNames hNamed
  refine ⟨source, _, hResolve, List.map_map, ?_⟩
  exact
    { sorted :=
        pairwise_configNames workspace.disk folder
          (hDistinct.nodup_names source)
      chosen := mem_configNames_names_iff hNamed hSource hFolder
      texts :=
        text?_of_completes_copies hSource
          (hApart source hResolve) hNames hDone
      others := (completes_copies hNames hDone).2.1 }

/-
  Copying the configuration files of a folder to another one
  does not depend on how the folder is listed.  Any order of its
  names is that of a disk that is alike, and on all of these
  disks it gives the same result, logs the same and leaves disks
  that are alike.  If it succeeds then the copies are the files
  of the folder with the extension, but for those with a path
  that the system does not take.
-/
theorem copyConfigs_unordered
    (folder outFolder : String)
    (workspace : Workspace)
    (hNamed : workspace.disk.Named)
    (hDistinct : workspace.disk.Distinct)
    (hApart :
      ∀ source, workspace.disk.resolve folder = .ok source →
        workspace.disk.folderAt outFolder ≠ .ok source) :
    let run := outcome (copyConfigs folder outFolder)
    (∀ (source : Disk.Place) (order : List String),
        order.Perm (workspace.disk.names source) →
          ∃ other, Disk.Alike workspace.disk other ∧
            other.Distinct ∧ other.names source = order) ∧
      (∀ other : Workspace, workspace.Alike other →
        other.disk.Distinct →
          (run other).1 = (run workspace).1 ∧
            (run workspace).2.Alike (run other).2) ∧
      ∀ copied after, run workspace = (.ok copied, after) →
        ∃ source names,
          workspace.disk.resolve folder = .ok source ∧
            copied = names.map (Path.join outFolder) ∧
            CopiesConfigs folder outFolder source
              workspace.disk after.disk names := by
  intro run
  refine ⟨?_, ?_, ?_⟩
  · intro source order hOrder
    exact hDistinct.exists_alike_names_eq hOrder
  · intro other hAlike hOther
    exact
      alike_copyConfigs folder outFolder hAlike hDistinct hOther
  · intro copied after hRun
    exact
      copiesConfigs_of_copyConfigs hNamed hDistinct hApart hRun

/- A disk with files that are listed in the order of names. -/
def listedDisk : Disk where
  entries :=
    [(["conf"], .folder),
      (["conf", ".json"], .file "hidden" false),
      (["conf", "brackets.json"], .file "brackets" false),
      (["conf", "notes.txt"], .file "notes" false),
      (["conf", "package.json"], .file "package" false),
      (["dist"], .folder)]
  workFolder := []

/- The same files are copied if they are listed from the end. -/
theorem copyConfigs_unordered_listedDisk :
    let relisted : Disk :=
      { listedDisk with entries := listedDisk.entries.reverse }
    let run := outcome (copyConfigs "conf" "dist")
    let copied := ["dist/brackets.json", "dist/package.json"]
    listedDisk.Named ∧ listedDisk.Distinct ∧
      listedDisk.names ["conf"] ≠ relisted.names ["conf"] ∧
      (run ⟨listedDisk, []⟩).1 = .ok copied ∧
      (run ⟨relisted, []⟩).1 = .ok copied ∧
      ∃ after names,
        run ⟨listedDisk, []⟩ = (.ok copied, after) ∧
          copied = names.map (Path.join "dist") ∧
          CopiesConfigs "conf" "dist" ["conf"] listedDisk
            after.disk names := by
  intro relisted run copied
  have hNamed : listedDisk.Named := by
    decide
  have hDistinct : listedDisk.Distinct := by
    decide
  have hSource : listedDisk.resolve "conf" = .ok ["conf"] := by
    decide +kernel
  have hTarget : listedDisk.folderAt "dist" = .ok ["dist"] := by
    decide +kernel
  have hApart :
      ∀ source, listedDisk.resolve "conf" = .ok source →
        listedDisk.folderAt "dist" ≠ .ok source := by
    intro source hResolve
    rw [← Except.ok.inj (hSource.symm.trans hResolve), hTarget]
    decide
  have hChosen :
      configNames listedDisk "conf"
          (listedDisk.names ["conf"]) =
        ["brackets.json", "package.json"] := by
    have hFiltered :
        (listedDisk.names ["conf"]).filter
            (isConfig listedDisk "conf") =
          ["brackets.json", "package.json"] := by
      decide +kernel
    rw [configNames, hFiltered, List.mergeSort_of_pairwise]
    decide +kernel
  have hRun : (run ⟨listedDisk, []⟩).1 = .ok copied := by
    have hOutcome :=
      outcome_copyConfigs_of_chosen "dist" ⟨listedDisk, []⟩
        hSource (by decide) hChosen
    exact (congrArg Prod.fst hOutcome).trans (by decide +kernel)
  rcases copyConfigs_unordered "conf" "dist" ⟨listedDisk, []⟩
      hNamed hDistinct hApart with
    ⟨-, hListings, hCopies⟩
  rcases hDistinct.alike_of_perm (List.reverse_perm _) with
    ⟨hRelisted, hAlike⟩
  have hSame :=
    (hListings ⟨relisted, []⟩ ⟨hAlike, rfl⟩ hRelisted).1
  have hPair :
      run ⟨listedDisk, []⟩ =
        (.ok copied, (run ⟨listedDisk, []⟩).2) :=
    Prod.ext hRun rfl
  rcases hCopies _ _ hPair with
    ⟨source, names, hResolve, hNames, hFiles⟩
  cases hSource.symm.trans hResolve
  exact
    ⟨hNamed, hDistinct, by decide, hRun, hSame.trans hRun, _,
      names, hPair, hNames, hFiles⟩

------------------------------------------------------------
-- Files That Are Passed Over
------------------------------------------------------------

/-
  A path to a folder with slashes behind it leads there still,
  but all files are passed over if no name fits any more.
-/
theorem copyConfigs_slashed
    {folder : String}
    (count : Nat)
    (outFolder : String)
    (workspace : Workspace)
    {source : Disk.Place}
    (hNamed : workspace.disk.Named)
    (hSource : workspace.disk.resolve folder = .ok source)
    (hFolder : workspace.disk.entryAt? source = some .folder)
    (hFits :
      Text.byteLength folder.toList + count ≤ Disk.pathLimit)
    (hLong :
      ∀ name ∈ workspace.disk.names source,
        Disk.pathLimit <
          Text.byteLength folder.toList + count +
            Text.byteLength name.toList) :
    let longer := Path.slashed folder count
    workspace.disk.resolve longer = .ok source ∧
      outcome (copyConfigs longer outFolder) workspace =
        (.ok [], workspace) := by
  intro longer
  have hLonger : workspace.disk.resolve longer = .ok source :=
    Disk.resolve_slashed hSource hFolder hFits
  have hAt := (Disk.resolve_eq_ok_iff.mp hLonger).2.1
  have hChosen :
      configNames workspace.disk longer
        (workspace.disk.names source) = [] := by
    rw [List.eq_nil_iff_forall_not_mem]
    intro name hName
    have hListed := (mem_configNames_iff.mp hName).1
    rw [mem_configNames_names_iff hNamed hAt hFolder] at hName
    exact
      Disk.not_takes_slashed (hNamed.isName hListed)
        (hLong name hListed) hName.2.2
  refine ⟨hLonger, ?_⟩
  rw [outcome_copyConfigs_of_chosen outFolder workspace hLonger
    hFolder hChosen]
  rfl

/- A disk with a folder of one file. -/
def settingsDisk : Disk where
  entries :=
    [(["conf"], .folder),
      (["conf", "settings.json"], .file "\x7b\x7d" false),
      (["dist"], .folder)]
  workFolder := []

/- A path to the folder that is nearly as long as it may be. -/
def slashedFolder : String :=
  Path.slashed "conf" 4086

/-
  The file is passed over, though it has the extension and is
  in the folder that is listed.
-/
theorem slashedFolder_passes_over :
    settingsDisk.resolve slashedFolder = .ok ["conf"] ∧
      settingsDisk.folderAt "dist" = .ok ["dist"] ∧
      settingsDisk.names ["conf"] = ["settings.json"] ∧
      (settingsDisk.textAt? ["conf", "settings.json"]).isSome ∧
      Path.IsExtension configExtension "settings.json" ∧
      outcome (copyConfigs slashedFolder "dist")
          ⟨settingsDisk, []⟩ =
        (.ok [], ⟨settingsDisk, []⟩) := by
  have hDot : '.' ∉ configExtension.toList := by
    decide
  have hSource : settingsDisk.resolve "conf" = .ok ["conf"] := by
    decide +kernel
  have hPasses :=
    copyConfigs_slashed 4086 "dist" ⟨settingsDisk, []⟩
      (by decide) hSource (by decide) (by decide) (by decide)
  exact
    ⟨hPasses.1, by decide +kernel, by decide, by decide,
      (Path.hasExtension_iff hDot).mp (by decide), hPasses.2⟩

end TextMate
