import TextMate.Batch
import TextMate.Export

/-
  This file defines how a grammar is written to a folder, with
  the configuration files that belong to it.

  Key definitions include:
    * `BuildOptions`
    * `BuildOptions.target`
    * `BuildReport`
    * `build`
-/

namespace TextMate

/- What a build is asked to do. -/
structure BuildOptions where
  outFolder : String
  name : Option String
  configFolder : Option String

/- What a build wrote. -/
structure BuildReport where
  grammar : String
  copied : List String

def grammarEnding : String := ".tmLanguage.json"

/- The path of the grammar file. -/
def BuildOptions.target
    (options : BuildOptions)
    (grammar : Grammar) : String :=
  let name := options.name.getD grammar.name
  Path.join options.outFolder (name ++ grammarEnding)

/-
  Write a grammar to a folder, which is emptied before, and
  copy the configuration files next to it.
-/
def build
    (options : BuildOptions)
    (grammar : Grammar) : Action BuildReport := do
  Action.ofExcept grammar.validate
  let target := options.target grammar
  Action.ofAccess options.outFolder
    (Disk.clean options.outFolder)
  Action.ofAccess target
    (Disk.write target grammar.toDocument.text)
  Action.note ("Wrote file '" ++ target ++ "'")
  let copied ←
    match options.configFolder with
    | some folder => copyConfigs folder options.outFolder
    | none => pure []
  return ⟨target, copied⟩

end TextMate
