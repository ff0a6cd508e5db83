import TextMate.Proofs.Decompile.Units

/-
  This file proves that a decompilation that succeeds leaves
  its units, formatted, in its folder and nothing else there,
  and that it changes nothing outside but for missing folders
  on the way.

  Main declarations:
    * `Path.join_injective`
    * `rooted_decompile`
    * `decompile_holdsJust`
-/

namespace TextMate

open Import (Acceptance)
open Source (primaryName)

------------------------------------------------------------
-- Paths of Files
------------------------------------------------------------

/- Paths that lead on from a folder differ as they do. -/
theorem Path.join_injective
    (folder : String)
    {first second : String}
    (hFirst : isAbsolute first = false)
    (hSecond : isAbsolute second = false)
    (hJoin : join folder first = join folder second) :
    first = second := by
  unfold join at hJoin
  rw [hFirst, hSecond, Bool.false_or] at hJoin
  split at hJoin
  · exact hJoin
  · split at hJoin
    · exact (String.append_right_inj _).mp hJoin
    · exact (String.append_right_inj _).mp hJoin

/- Units that are formatted keep their paths. -/
theorem map_path_of_formatted
    {formatter : Formatter}
    {disk : Disk}
    {units formatted : List SourceUnit}
    (hFormatted :
      List.Forall₂ (IsFormatted formatter disk) units
        formatted) :
    formatted.map SourceUnit.path =
      units.map SourceUnit.path := by
  induction hFormatted with
  | nil => rfl
  | cons hUnit _ ih =>
      rw [List.map_cons, List.map_cons, ih, hUnit.1]

/- The files of units have paths of their own. -/
theorem nodup_map_join
    {outFolder : String}
    {units : List SourceUnit}
    (hUnits :
      ∀ unit ∈ units, ∃ names,
        Source.IsUnitPath unit.path names)
    (hDistinct : (units.map SourceUnit.path).Nodup) :
    (units.map fun unit =>
      Path.join outFolder unit.path).Nodup := by
  refine
    List.pairwise_map.mpr
      ((List.pairwise_map.mp hDistinct).imp_of_mem
        fun {first second} hFirst hSecond hPaths hJoin => ?_)
  rcases hUnits first hFirst with ⟨_, hOne⟩
  rcases hUnits second hSecond with ⟨_, hTwo⟩
  exact
    hPaths
      (Path.join_injective _ hOne.isRelative hTwo.isRelative
        hJoin)

------------------------------------------------------------
-- Decompilations
------------------------------------------------------------

/- A decompilation keeps a disk rooted, also if it fails. -/
theorem rooted_decompile
    (check : Acceptance)
    (options : DecompileOptions)
    (path : String)
    {workspace : Workspace}
    (hKeeps : options.formatter.KeepsDisk workspace.disk)
    (hRooted : workspace.disk.Rooted) :
    (outcome (decompile check options path)
      workspace).2.disk.Rooted := by
  have hWrite :
      ∀ prepared,
        Preserves
          (fun workspace : Workspace => workspace.disk.Rooted)
          (Prepared.write options.outFolder prepared) := by
    intro prepared
    refine
      (Action.preserves_ofAccess
        (Disk.rooted_clean _) _).bind fun _ => ?_
    refine
      (Preserves.runBatch fun job _ =>
        job.rooted_run).bind fun _ => ?_
    exact .pure _
  rw [decompile_eq_bind, outcome_bind]
  rcases hPrepare :
    outcome (prepare check options path) workspace with
    ⟨_ | prepared, between⟩
  all_goals
    have hBetween : between.disk = workspace.disk :=
      (keepsDisk_prepare check options hKeeps path).after rfl
        hPrepare
    rw [← hBetween] at hRooted
  · exact hRooted
  · exact hWrite prepared between hRooted

/-
  A decompilation that succeeds loaded a document, rendered the
  units of its grammar and formatted each of them.  Its folder
  holds just the files of these: the primary unit, and if there
  is an entry then one unit for each and their index.  It gives
  their paths in order, each once, and outside of the folder it
  made missing folders on the way at most.  The disk is rooted
  again, so another decompilation may follow.
-/
theorem decompile_holdsJust
    (check : Acceptance)
    (options : DecompileOptions)
    (path : String)
    (workspace after : Workspace)
    (report : DecompileReport)
    (names : List String)
    (hOut : Path.LeadsDown options.outFolder names)
    (hRooted : workspace.disk.Rooted)
    (hKeeps : options.formatter.KeepsDisk workspace.disk)
    (hRun :
      outcome (decompile check options path) workspace =
        (.ok report, after)) :
    let place := workspace.disk.workFolder ++ names
    ∃ document grammar units formatted,
      loadDocument workspace.disk path = .ok document ∧
        ((importGrammar check document).start .empty).1 =
          .ok grammar ∧
        ((renderUnits check options.checkIncludes document).start
          .empty).1 = .ok units ∧
        units.map SourceUnit.path =
          primaryName :: grammar.repository.unitPaths ∧
        List.Forall₂
          (IsFormatted options.formatter workspace.disk) units
          formatted ∧
        after.disk.HoldsJust place
          (formatted.map SourceUnit.file) ∧
        report.written =
          (formatted.map fun unit =>
            Path.join options.outFolder unit.path) ∧
        report.written.Nodup ∧
        Disk.Confined place workspace.disk after.disk ∧
        after.disk.Rooted := by
  intro place
  have hAfter :=
    rooted_decompile check options path hKeeps hRooted
  rw [hRun] at hAfter
  rw [decompile_eq_bind] at hRun
  rcases outcome_bind_eq_ok_iff.mp hRun with
    ⟨prepared, between, hPrepare, hWrite⟩
  have hBetween : between.disk = workspace.disk :=
    (keepsDisk_prepare check options hKeeps path).after rfl
      hPrepare
  rcases prepare_eq_ok hKeeps hPrepare with
    ⟨document, units, hLoad, hRendered, hFormatted⟩
  rcases renderUnits_eq_ok hRendered with
    ⟨grammar, hImport, -, hUnits⟩
  rcases Grammar.units_eq_ok hUnits with ⟨hPaths, hDistinct⟩
  rcases Prepared.write_eq_ok hWrite with
    ⟨cleaned, hClean, hCompletes, hWritten⟩
  have hSame := map_path_of_formatted hFormatted
  rw [← hSame] at hDistinct
  have hUnitPaths :
      ∀ unit ∈ prepared.units, ∃ names,
        Source.IsUnitPath unit.path names := by
    intro unit hUnit
    have hPath :
        unit.path ∈ prepared.units.map SourceUnit.path :=
      List.mem_map_of_mem hUnit
    rw [hSame, hPaths] at hPath
    exact Repository.isUnitPath_of_mem hPath
  -- The folder is bare first, and then the units are written.
  rw [hBetween] at hClean
  rcases
    Disk.clean_eq_ok hOut.components_eq hOut.ne_empty hRooted
      hClean with ⟨hConfined, hFolder, hBare⟩
  rw [hOut.start_eq] at hConfined hFolder hBare
  have hHolds := Disk.holdsJust_nil hFolder hBare
  have hWork := hConfined.workFolder
  rw [← hWork] at hHolds
  rcases
    holdsJust_of_completes hOut hUnitPaths
      (pairwise_apart_of_nodup hUnitPaths hDistinct) hHolds
      hCompletes with ⟨hOthers, hAll⟩
  rw [hWork] at hOthers hAll
  refine
    ⟨document, grammar, units, prepared.units, hLoad, hImport,
      hRendered, hPaths, hFormatted, hAll, hWritten, ?_,
      hConfined.trans hOthers, hAfter⟩
  rw [hWritten]
  exact nodup_map_join hUnitPaths hDistinct

/-
  A disk with a document that has an entry, a folder with a unit
  of an earlier decompilation, and a file beside it.
-/
def crowdedDisk : Disk where
  entries :=
    [(["in.json"],
        .file
          ("\x7b\"name\":\"n\",\"scopeName\":\"s\"," ++
            "\"repository\":\x7b\"x\":\x7b\x7d\x7d\x7d")
          false),
      (["keep"], .file "kept" false),
      (["out"], .folder),
      (["out", "old.rs"], .file "earlier" false)]
  workFolder := []

/-
  The folder holds three units and no earlier one, and the file
  beside it is still there.
-/
theorem decompile_holdsJust_crowdedDisk :
    let check : Acceptance := fun _ => none
    let run :=
      outcome (decompile check ⟨"out", .verbatim, true⟩ "in.json")
        ⟨crowdedDisk, []⟩
    let disk := run.2.disk
    (∃ units : List SourceUnit,
      (units.map fun unit => Path.join "out" unit.path) =
          ["out/mod.rs", "out/repository/x.rs",
            "out/repository/mod.rs"] ∧
        disk.HoldsJust ["out"] (units.map SourceUnit.file)) ∧
      disk.entryAt? ["out", "old.rs"] = none ∧
      disk.entryAt? ["keep"] = some (.file "kept" false) := by
  intro check run disk
  have hWritten :
      run.1.map DecompileReport.written =
        .ok
          ["out/mod.rs", "out/repository/x.rs",
            "out/repository/mod.rs"] := by
    decide +kernel
  have hOld : disk.entryAt? ["out", "old.rs"] = none := by
    decide +kernel
  have hKept :
      crowdedDisk.entryAt? ["keep"] =
        some (.file "kept" false) := by
    decide
  cases hReport : run.1 with
  | error _ =>
      rw [hReport] at hWritten
      cases hWritten
  | ok report =>
      rw [hReport] at hWritten
      rcases
        decompile_holdsJust check ⟨"out", .verbatim, true⟩
          "in.json" ⟨crowdedDisk, []⟩ run.2 report ["out"]
          ⟨by decide, by decide, by decide⟩ (by decide)
          (Formatter.keepsDisk_verbatim _)
          (Prod.ext hReport rfl) with
        ⟨_, _, _, units, -, -, -, -, -, hHolds, hPaths, -,
          hConfined, -⟩
      refine ⟨⟨units, ?_, hHolds⟩, hOld, ?_⟩
      · rw [← hPaths]
        exact Except.ok.inj hWritten
      · rcases hConfined.outside ["keep"] (by decide) with
          hSame | ⟨-, hNone, -⟩
        · rw [← hKept]
          exact hSame
        · rw [hKept] at hNone
          cases hNone

end TextMate
