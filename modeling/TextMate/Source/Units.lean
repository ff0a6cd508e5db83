import TextMate.Source.Identifier
import TextMate.Source.Writer

/-
  This file defines the units of generated source: a file for
  each repository entry, an index for them, and the primary
  file of a grammar.

  Key definitions include:
    * `SourceUnit`
    * `RepositoryUnits`
    * `RepositoryUnits.links`
    * `splitEntries`
    * `Repository.split`
    * `Grammar.units`
-/

namespace TextMate

/- A file of generated source with its relative path. -/
structure SourceUnit where
  path : String
  text : String
deriving DecidableEq

structure EntryUnit where
  name : String
  identifier : String
  unit : SourceUnit
deriving DecidableEq

structure RepositoryUnits where
  entries : List EntryUnit
  index : SourceUnit

namespace Source

def repositoryFolder : String := "repository"

def primaryName : String := "mod.rs"

/- The path of a file in the folder of the entries. -/
def entryPath
    (file : String) : String :=
  repositoryFolder ++ "/" ++ file

def entryUnit
    (name : String)
    (rule : Rule) : EntryUnit :=
  let identifier := Source.identifier name
  { name := name
    identifier := identifier
    unit :=
      { path := entryPath (identifier ++ ".rs")
        text := unitText identifier rule } }

/-
  The units of entries, in order.  An entry whose identifier
  is taken stops this.
-/
def splitEntries
    (taken : List String) :
    List (String × Rule) → Except Error (List EntryUnit)
  | [] => .ok []
  | (name, rule) :: rest =>
      let unit := entryUnit name rule
      if taken.contains unit.identifier then
        .error (.repositoryCollision name)
      else
        match splitEntries (unit.identifier :: taken) rest with
        | .error error => .error error
        | .ok units => .ok (unit :: units)

end Source

namespace RepositoryUnits

/- The names of the entries with their identifiers. -/
def links
    (units : RepositoryUnits) : Source.Links :=
  units.entries.map fun entry =>
    (entry.name, entry.identifier)

/- The units of the entries in order, and the index. -/
def all
    (units : RepositoryUnits) : List SourceUnit :=
  units.entries.map EntryUnit.unit ++ [units.index]

end RepositoryUnits

/- Give each entry of a repository a unit of its own. -/
def Repository.split
    (repository : Repository) :
    Except Error RepositoryUnits :=
  match Source.splitEntries [] repository.entries with
  | .error error => .error error
  | .ok entries =>
      .ok
        { entries := entries
          index :=
            { path := Source.entryPath Source.primaryName
              text :=
                Source.indexText
                  (entries.map EntryUnit.identifier) } }

/-
  The units of a grammar: the primary one, and those of its
  repository if it has an entry.
-/
def Grammar.units
    (grammar : Grammar) : Except Error (List SourceUnit) :=
  match grammar.repository.split with
  | .error error => .error error
  | .ok units =>
      let primary : SourceUnit :=
        { path := Source.primaryName
          text := Source.grammarText grammar units.links }
      .ok
        (primary ::
          (if grammar.repository.isEmpty then [] else units.all))

end TextMate
