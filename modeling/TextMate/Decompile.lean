import TextMate.Batch
import TextMate.Formatter
import TextMate.Import
import TextMate.Source.Units

/-
  This file defines how a grammar document is turned into
  units of source, and how these are written to a folder.

  Key definitions include:
    * `formatUnits`
    * `renderUnits`
    * `DecompileOptions`
    * `DecompileReport`
    * `decompile`
-/

namespace TextMate

open Import (Acceptance)

------------------------------------------------------------
-- Units
------------------------------------------------------------

/- The value of a computation that writes no journal. -/
def Run.ofExcept
    {α : Type}
    (result : Except Error α) : Run α :=
  match result with
  | .ok value => return value
  | .error error => throw error

/-
  The units for a document.  The grammar has to be in shape,
  and includes are checked if that is asked for.
-/
def renderUnits
    (check : Acceptance)
    (checkIncludes : Bool)
    (document : Document) : Run (List SourceUnit) := do
  let grammar ← importGrammar check document
  Run.ofExcept grammar.validate
  if checkIncludes then
    let _ ← grammar.reportDangling
  Run.ofExcept grammar.units

/- Format the text of each unit, in order. -/
def formatUnits
    (formatter : Formatter)
    (units : List SourceUnit) : Action (List SourceUnit) :=
  units.mapM fun unit => do
    return { unit with text := ← formatter.format unit.text }

------------------------------------------------------------
-- Decompilation
------------------------------------------------------------

/- What a decompilation is asked to do. -/
structure DecompileOptions where
  outFolder : String
  formatter : Formatter
  checkIncludes : Bool

structure DecompileReport where
  grammarName : String
  written : List String
  diagnostics : List Diagnostic

def unitJobs
    (outFolder : String)
    (units : List SourceUnit) : List Job :=
  units.map fun unit =>
    .write (Path.join outFolder unit.path) unit.text

/-
  Turn the document at a path into units in a folder, which is
  emptied before.
-/
def decompile
    (check : Acceptance)
    (options : DecompileOptions)
    (path : String) : Action DecompileReport := do
  let document ← Action.query fun disk =>
    loadDocument disk path
  Action.note ("Parsed grammar for '" ++ document.name ++ "'")
  let (result, diagnostics) ← Action.collect
    (renderUnits check options.checkIncludes document)
  let units ←
    formatUnits options.formatter (← Action.ofExcept result)
  Action.ofAccess options.outFolder
    (Disk.clean options.outFolder)
  let written ← runBatch (unitJobs options.outFolder units)
  return ⟨document.name, written, diagnostics⟩

end TextMate
