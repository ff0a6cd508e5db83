import TextMate.Proofs.Batch.Listing
import TextMate.Proofs.Build.Confined

/-
  This file states what a build that succeeds leaves in the
  grammar file.

  A configuration file may be copied to the place of the grammar
  file.  Then its text replaces the grammar, or the file is left
  empty if it is the grammar file itself that is copied.  If no
  copy goes there, then the file holds the grammar.

  Main declarations:
    * `completes_copies`
    * `copyFiles_eq_ok`
    * `text_build`
-/

namespace TextMate

------------------------------------------------------------
-- Copies of Files
------------------------------------------------------------

/-
  A batch of copies that succeeds leaves each source at its
  target, and no other entry changes.  A later copy has another
  name, so it changes neither the source nor the target of an
  earlier one.
-/
theorem completes_copies
    {folder outFolder : String}
    {names : List String}
    {before after : Disk}
    (hNames : ∀ name ∈ names, Path.IsName name)
    (hDone :
      Completes
        (names.map fun name =>
          .copy (Path.join folder name)
            (Path.join outFolder name))
        before after) :
    Disk.Extends before after ∧
      (∀ place,
        (∀ name ∈ names,
          after.resolve (Path.join outFolder name) ≠
            .ok place) →
          after.entryAt? place = before.entryAt? place) ∧
      ∀ name ∈ names,
        after.HoldsCopy (Path.join folder name)
          (Path.join outFolder name) := by
  induction names generalizing before with
  | nil =>
      cases hDone
      refine ⟨.refl _, fun _ _ => rfl, fun name hName => ?_⟩
      exact absurd hName List.not_mem_nil
  | cons first rest ih =>
      cases hDone with
      | cons hJob hRest =>
          rename_i between
          have hFirst := hNames first List.mem_cons_self
          have hOthers : ∀ name ∈ rest, Path.IsName name :=
            fun name hName =>
              hNames name (List.mem_cons_of_mem _ hName)
          rcases ih hOthers hRest with
            ⟨hLater, hLaterSame, hLaterCopies⟩
          rcases Disk.copy_eq_ok hJob with ⟨hNow, hCopy, hSame⟩
          refine ⟨hNow.trans hLater, ?_, ?_⟩
          · intro place hOther
            rw [hLaterSame place fun name hName =>
              hOther name (List.mem_cons_of_mem _ hName)]
            refine hSame place fun hTarget => ?_
            exact
              hOther first List.mem_cons_self
                (hLater.resolve hTarget)
          · intro name hName
            by_cases hAgain : name ∈ rest
            · exact hLaterCopies name hAgain
            · have hIs : name = first :=
                (List.mem_cons.mp hName).resolve_right hAgain
              subst hIs
              refine hCopy.of_extends hLater ?_
              intro path place hPath hPlace
              have hLast : place.getLast? = some name := by
                rcases hPath with rfl | rfl <;>
                  exact
                    Disk.getLast?_of_resolve_join hFirst hPlace
              refine
                Disk.textAt?_congr
                  (hLaterSame place fun other hOther hTo => ?_)
              have hEnd :=
                Disk.getLast?_of_resolve_join
                  (hOthers other hOther) hTo
              cases hLast.symm.trans hEnd
              exact hAgain hOther

------------------------------------------------------------
-- Copies of Builds
------------------------------------------------------------

/-
  The last stage of a build, if it succeeds, copies files under
  their names, and leaves all other entries.
-/
theorem copyFiles_eq_ok
    {options : BuildOptions}
    {workspace after : Workspace}
    {copied : List String}
    (hNamed : workspace.disk.Named)
    (hCopy :
      outcome options.copyFiles workspace =
        (.ok copied, after)) :
    ∃ names : List String,
      (∀ name ∈ names, Path.IsName name) ∧
        copied = names.map (Path.join options.outFolder) ∧
        (∀ place,
          (∀ path ∈ copied,
            after.disk.resolve path ≠ .ok place) →
            after.disk.entryAt? place =
              workspace.disk.entryAt? place) ∧
        ∀ name ∈ names,
          ∃ folder, options.configFolder = some folder ∧
            after.disk.HoldsCopy (Path.join folder name)
              (Path.join options.outFolder name) := by
  unfold BuildOptions.copyFiles at hCopy
  split at hCopy
  · rename_i folder hFolder
    rcases completes_of_copyConfigs hCopy with
      ⟨listed, hListed, rfl, hDone⟩
    rcases listFolder_eq_ok_iff.mp hListed with
      ⟨place, -, -, rfl⟩
    rw [copyJobs_eq_map] at hDone ⊢
    have hNames :
        ∀ name ∈ configNames workspace.disk folder
            (workspace.disk.names place),
          Path.IsName name :=
      fun _ => isName_of_mem_configNames hNamed
    rcases completes_copies hNames hDone with
      ⟨-, hSame, hCopies⟩
    refine ⟨_, hNames, List.map_map, ?_, ?_⟩
    · intro other hOther
      refine hSame other fun name hName => hOther _ ?_
      rw [List.map_map]
      exact List.mem_map_of_mem hName
    · exact fun name hName => ⟨folder, hFolder, hCopies name hName⟩
  · cases hCopy
    refine ⟨[], ?_, rfl, fun _ _ => rfl, ?_⟩ <;>
      exact fun _ hName => absurd hName List.not_mem_nil

------------------------------------------------------------
-- Builds that Succeed
------------------------------------------------------------

/-
  A build that succeeds leaves a file at the place where it wrote
  the grammar, and does not change it unless a copied path leads
  there.
-/
theorem build_leaves
    {options : BuildOptions}
    {grammar : Grammar}
    {workspace after : Workspace}
    {report : BuildReport}
    (hNamed : workspace.disk.Named)
    (hBuild :
      outcome (build options grammar) workspace =
        (.ok report, after)) :
    ∃ place,
      after.disk.resolve report.grammar = .ok place ∧
        (after.disk.textAt? place).isSome ∧
        ((∀ path ∈ report.copied,
            after.disk.resolve path ≠ .ok place) →
          after.disk.textAt? place =
            some grammar.toDocument.text) := by
  rcases build_eq_ok hNamed hBuild with
    ⟨cleaned, place, copied, hCleaned, hPlace, hCopy, rfl⟩
  have hNamedWrote :=
    named_wroteGrammar hCleaned hPlace workspace.log
  have hWrote := extends_wroteGrammar hPlace workspace.log
  have hEntry :=
    entryAt?_wroteGrammar hPlace workspace.log place
  rw [if_pos rfl] at hEntry
  have hCopied :
      Disk.Extends _
        (outcome options.copyFiles
          (wroteGrammar options grammar cleaned workspace.log
            place)).2.disk :=
    extends_copyFiles hNamedWrote
  rw [hCopy] at hCopied
  have hHas : after.disk.has place :=
    hCopied.kept place (Option.isSome_of_eq_some hEntry)
  have hFolder :
      after.disk.entryAt? place ≠ some .folder := by
    intro hMade
    have hBefore := (hCopied.folders place).mp hMade
    cases hEntry.symm.trans hBefore
  rcases copyFiles_eq_ok hNamedWrote hCopy with
    ⟨names, -, rfl, hSame, -⟩
  refine
    ⟨place,
      (hWrote.trans hCopied).resolve_of_writable hPlace hHas,
      Disk.isSome_textAt? hHas hFolder, fun hOthers => ?_⟩
  rw [Disk.textAt?, hSame place hOthers, hEntry]

/- A copied path holds the configuration file of its name. -/
theorem build_holdsCopy
    {options : BuildOptions}
    {grammar : Grammar}
    {workspace after : Workspace}
    {report : BuildReport}
    (hNamed : workspace.disk.Named)
    (hBuild :
      outcome (build options grammar) workspace =
        (.ok report, after))
    {path : String}
    (hPath : path ∈ report.copied) :
    ∃ folder name,
      options.configFolder = some folder ∧
        Path.IsName name ∧
        path = Path.join options.outFolder name ∧
        after.disk.HoldsCopy (Path.join folder name) path := by
  rcases build_eq_ok hNamed hBuild with
    ⟨cleaned, place, copied, hCleaned, hPlace, hCopy, rfl⟩
  have hNamedWrote :=
    named_wroteGrammar hCleaned hPlace workspace.log
  rcases copyFiles_eq_ok hNamedWrote hCopy with
    ⟨names, hNames, rfl, -, hCopies⟩
  rcases List.mem_map.mp hPath with ⟨name, hName, rfl⟩
  rcases hCopies name hName with ⟨folder, hFolder, hHolds⟩
  exact ⟨folder, name, hFolder, hNames name hName, rfl, hHolds⟩

/-
  A build that succeeds leaves a file for the grammar.  It holds
  the grammar if no copied path leads to it.  If one does then
  the file holds what was copied, which is nothing where the
  file was copied to itself.
-/
theorem text_build
    (options : BuildOptions)
    (grammar : Grammar)
    (workspace after : Workspace)
    (report : BuildReport)
    (hNamed : workspace.disk.Named)
    (hBuild :
      outcome (build options grammar) workspace =
        (.ok report, after)) :
    let disk := after.disk
    let place := disk.resolve report.grammar
    (disk.text? report.grammar).isSome ∧
      ((∀ path ∈ report.copied, disk.resolve path ≠ place) →
        disk.text? report.grammar =
          some grammar.toDocument.text) ∧
      ∀ path ∈ report.copied, disk.resolve path = place →
        ∃ folder name,
          options.configFolder = some folder ∧
            Path.IsName name ∧
            path = Path.join options.outFolder name ∧
            (disk.resolve (Path.join folder name) = place →
              disk.text? report.grammar = some "") ∧
            (disk.resolve (Path.join folder name) ≠ place →
              disk.text? report.grammar =
                disk.text? (Path.join folder name)) := by
  intro disk place
  rcases build_leaves hNamed hBuild with
    ⟨here, hHere, hText, hKept⟩
  have hPlace : place = .ok here := hHere
  rw [hPlace]
  refine ⟨?_, ?_, ?_⟩
  · rw [Disk.text?_of_resolve hHere]
    exact hText
  · intro hOthers
    rw [Disk.text?_of_resolve hHere]
    exact hKept hOthers
  · intro path hPath hTo
    rcases build_holdsCopy hNamed hBuild hPath with
      ⟨folder, name, hFolder, hName, hJoin, hHolds⟩
    have hSame : disk.text? report.grammar = disk.text? path := by
      rw [Disk.text?_of_resolve hHere, Disk.text?_of_resolve hTo]
    refine ⟨folder, name, hFolder, hName, hJoin, ?_⟩
    rw [hSame, ← hTo]
    exact hHolds.text?_eq

/- A disk with a folder that holds one configuration file. -/
def configuredDisk : Disk where
  entries :=
    [(["conf"], .folder),
      (["conf", "language-configuration.json"],
        .file "brackets" false)]
  workFolder := []

/- A copy under another name keeps the grammar. -/
theorem text_build_configuredDisk :
    let options : BuildOptions := ⟨"dist", none, some "conf"⟩
    let grammar := emptyGrammar "Foo"
    configuredDisk.Named ∧
      ∃ report after,
        outcome (build options grammar) ⟨configuredDisk, []⟩ =
            (.ok report, after) ∧
          report.copied =
            ["dist/language-configuration.json"] ∧
          after.disk.text? report.grammar =
            some grammar.toDocument.text := by
  intro options grammar
  have hNamed : configuredDisk.Named := by
    decide
  have hRun :
      let done :=
        outcome (build options grammar) ⟨configuredDisk, []⟩
      let disk := done.2.disk
      done.1.toOption.map BuildReport.grammar =
          some "dist/Foo.tmLanguage.json" ∧
        done.1.toOption.map BuildReport.copied =
          some ["dist/language-configuration.json"] ∧
        (disk.resolve "dist/language-configuration.json").toOption ≠
          (disk.resolve "dist/Foo.tmLanguage.json").toOption := by
    decide +kernel
  refine ⟨hNamed, ?_⟩
  rcases hBuild :
    outcome (build options grammar) ⟨configuredDisk, []⟩ with
    ⟨_ | report, after⟩
  · rw [hBuild] at hRun
    cases hRun.1
  · rw [hBuild] at hRun
    rcases hRun with ⟨hGrammar, hCopied, hApart⟩
    have hPath : report.grammar = "dist/Foo.tmLanguage.json" :=
      Option.some.inj hGrammar
    have hPaths :
        report.copied = ["dist/language-configuration.json"] :=
      Option.some.inj hCopied
    have hText :=
      text_build options grammar ⟨configuredDisk, []⟩ after
        report hNamed hBuild
    refine ⟨report, after, rfl, hPaths, hText.2.1 ?_⟩
    rw [hPath, hPaths]
    intro path hMem
    rw [List.mem_singleton.mp hMem]
    exact fun hSame => hApart (congrArg Except.toOption hSame)

/-
  A folder of configuration files that is the folder of the
  build holds the grammar file, which is copied to itself and
  left empty.
-/
theorem empty_loses_grammar :
    let options : BuildOptions := ⟨"dist", none, some "dist"⟩
    let grammar := emptyGrammar "Foo"
    let done := outcome (build options grammar) ⟨.empty, []⟩
    let path := "dist/Foo.tmLanguage.json"
    done.1.toOption.map BuildReport.grammar = some path ∧
      done.1.toOption.map BuildReport.copied = some [path] ∧
      done.2.disk.text? path = some "" ∧
      grammar.toDocument.text ≠ "" := by
  decide +kernel

end TextMate
