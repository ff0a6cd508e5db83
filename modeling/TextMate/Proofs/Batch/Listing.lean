import Mathlib.Data.List.Sort
import TextMate.Proofs.Batch
import TextMate.Proofs.Disk.Alike
import TextMate.Proofs.Text.ByteOrder

/-
  This file proves that copying the configuration files of a
  folder does not depend on the order in which the folder is
  listed.

  The files are chosen one by one and then sorted by their
  names, which are distinct.  So two listings give the same
  jobs, and these do the same on disks that are alike.

  Main declarations:
    * `Workspace.Alike`
    * `respects_runJobs`, `respects_runBatch`
    * `configNames`
    * `configNames_eq_of_perm`
    * `pairwise_configNames`
    * `alike_copyConfigs`
-/

namespace TextMate

------------------------------------------------------------
-- Batches on Disks That Are Alike
------------------------------------------------------------

/- Two workspaces have disks that are alike, and one log. -/
structure Workspace.Alike
    (first second : Workspace) : Prop where
  disk : Disk.Alike first.disk second.disk
  log : second.log = first.log

/- Jobs do the same if each of them does. -/
theorem respects_runJobs
    {jobs : List Job}
    (hJobs : ∀ job ∈ jobs, Respects Disk.Alike job.run) :
    Respects Workspace.Alike (runJobs jobs) := by
  induction jobs with
  | nil => exact .pure []
  | cons job jobs ih =>
      have hRest :=
        ih fun other hOther =>
          hJobs other (List.mem_cons_of_mem _ hOther)
      refine .bind ?_ fun result => ?_
      · intro first second hAlike
        have hJob :=
          hJobs job List.mem_cons_self _ _ hAlike.disk
        rw [Action.outcome_attempt, Action.outcome_attempt]
        exact
          ⟨congrArg Except.ok hJob.1, hJob.2, hAlike.log⟩
      · split
        · refine .bind (.change ?_) fun _ => ?_
          · intro first second hAlike
            refine ⟨hAlike.disk, ?_⟩
            rw [hAlike.log]
          · exact hRest.bind fun _ => .pure _
        · exact .pure _

/- So does a batch of them. -/
theorem respects_runBatch
    {jobs : List Job}
    (hJobs : ∀ job ∈ jobs, Respects Disk.Alike job.run) :
    Respects Workspace.Alike (runBatch jobs) := by
  refine (respects_runJobs hJobs).bind fun outcomes => ?_
  split
  · exact .pure _
  · exact .throw _

------------------------------------------------------------
-- Chosen Names
------------------------------------------------------------

/- The names of the files to copy, in order. -/
def configNames
    (disk : Disk)
    (folder : String)
    (names : List String) : List String :=
  (names.filter (isConfig disk folder)).mergeSort precedes

/- Each of them is copied to the same name. -/
theorem copyJobs_eq_map
    (disk : Disk)
    (folder outFolder : String)
    (names : List String) :
    copyJobs disk folder outFolder names =
      (configNames disk folder names).map fun name =>
        .copy (Path.join folder name)
          (Path.join outFolder name) := rfl

theorem mem_configNames_iff
    {disk : Disk}
    {folder name : String}
    {names : List String} :
    name ∈ configNames disk folder names ↔
      name ∈ names ∧ isConfig disk folder name := by
  rw [configNames, List.mem_mergeSort, List.mem_filter]

/- They are names, as all that the disk lists are. -/
theorem isName_of_mem_configNames
    {disk : Disk}
    {folder name : String}
    {place : Disk.Place}
    (hNamed : disk.Named)
    (hName :
      name ∈ configNames disk folder (disk.names place)) :
    Path.IsName name :=
  hNamed.isName (mem_configNames_iff.mp hName).1

/- The names are sorted. -/
theorem sorted_configNames
    (disk : Disk)
    (folder : String)
    (names : List String) :
    (configNames disk folder names).Pairwise (· ≤ ·) := by
  have hSorted :
      (configNames disk folder names).Pairwise
        fun x y => precedes x y := by
    apply List.pairwise_mergeSort
    · intro x y z
      simp only [precedes, decide_eq_true_eq]
      exact String.le_trans
    · intro x y
      simp only [precedes, Bool.or_eq_true, decide_eq_true_eq]
      exact String.le_total x y
  exact hSorted.imp of_decide_eq_true

/- Names that are listed in another order are sorted alike. -/
theorem configNames_eq_of_perm
    (disk : Disk)
    (folder : String)
    {names others : List String}
    (hPerm : others.Perm names) :
    configNames disk folder others =
      configNames disk folder names := by
  have hChosen :
      (configNames disk folder others).Perm
        (configNames disk folder names) := by
    unfold configNames
    refine (List.mergeSort_perm _ _).trans ?_
    refine (hPerm.filter _).trans ?_
    exact (List.mergeSort_perm _ _).symm
  refine
    hChosen.eq_of_pairwise ?_
      (sorted_configNames disk folder others)
      (sorted_configNames disk folder names)
  intro x y _ _
  exact String.le_antisymm

/- Distinct names have ascending bytes, each name once. -/
theorem pairwise_configNames
    (disk : Disk)
    (folder : String)
    {names : List String}
    (hNames : names.Nodup) :
    (configNames disk folder names).Pairwise fun x y =>
      Text.bytes x < Text.bytes y := by
  have hNodup : (configNames disk folder names).Nodup :=
    (List.mergeSort_perm _ _).nodup_iff.mpr (hNames.filter _)
  have hBoth :=
    (sorted_configNames disk folder names).and hNodup
  exact hBoth.imp fun hOrder =>
    Text.bytes_lt (lt_of_le_of_ne hOrder.1 hOrder.2)

------------------------------------------------------------
-- Two Listings of a Folder
------------------------------------------------------------

/-
  Disks that are alike copy the same configuration files, with
  the same result, whatever the order of their entries is.
-/
theorem alike_copyConfigs
    (folder outFolder : String)
    {first second : Workspace}
    (hAlike : first.Alike second)
    (hFirst : first.disk.Distinct)
    (hSecond : second.disk.Distinct) :
    let run := outcome (copyConfigs folder outFolder)
    (run second).1 = (run first).1 ∧
      (run first).2.Alike (run second).2 := by
  intro run
  have hConfig :
      isConfig second.disk folder = isConfig first.disk folder := by
    funext name
    rw [isConfig, isConfig, hAlike.disk.isFile]
  simp only [run, outcome_copyConfigs]
  unfold listFolder
  rw [hAlike.disk.resolve]
  rcases first.disk.resolve folder with cause | place
  · exact ⟨rfl, hAlike⟩
  · simp only [hAlike.disk.entries]
    rcases first.disk.entryAt? place with _ | _ | _
    · exact ⟨rfl, hAlike⟩
    · have hJobs :
          copyJobs second.disk folder outFolder
              (second.disk.names place) =
            copyJobs first.disk folder outFolder
              (first.disk.names place) := by
        rw [copyJobs_eq_map, copyJobs_eq_map, configNames,
          hConfig, ← configNames,
          configNames_eq_of_perm first.disk folder
            (hAlike.disk.perm_names hFirst hSecond place)]
      simp only [hJobs]
      refine respects_runBatch ?_ first second hAlike
      intro job hJob
      rcases mem_copyJobs_iff.mp hJob with ⟨name, -, -, rfl⟩
      exact Disk.respects_copy _ _
    · exact ⟨rfl, hAlike⟩

end TextMate
