import TextMate.Error
import TextMate.Rule

/-
  This file defines repositories and grammars, and the checks
  of a whole grammar.

  Key definitions include:
    * `Repository`
    * `Repository.tryInsert`
    * `Repository.ofEntries`
    * `Repository.same`
    * `ExtraValue`
    * `Grammar`
    * `Grammar.visit`
    * `Grammar.validate`
    * `Grammar.danglingIncludes`
-/

namespace TextMate

------------------------------------------------------------
-- Repositories
------------------------------------------------------------

/- Named rules, in the order in which they were added. -/
structure Repository where
  entries : List (String × Rule)
deriving Inhabited

namespace Repository

/- A repository without entries. -/
def empty : Repository := ⟨[]⟩

def names
    (repository : Repository) : List String :=
  repository.entries.map Prod.fst

/- The rule under a name. -/
def get?
    (repository : Repository)
    (name : String) : Option Rule :=
  List.lookup name repository.entries

/- A rule is there under the name. -/
def contains
    (repository : Repository)
    (name : String) : Bool :=
  (repository.get? name).isSome

/- The number of entries. -/
def size
    (repository : Repository) : Nat :=
  repository.entries.length

/- There is no entry. -/
def isEmpty
    (repository : Repository) : Bool :=
  repository.entries.isEmpty

/-
  Add a rule under a name: what comes of it, and the repository
  after it.  A name that is taken keeps its rule.
-/
def tryInsert
    (repository : Repository)
    (name : String)
    (rule : Rule) : Except Error Unit × Repository :=
  if repository.contains name then
    (.error (.repositoryCollision name), repository)
  else (.ok (), ⟨repository.entries ++ [(name, rule)]⟩)

/- The repository after an insertion, unless it fails. -/
def insert
    (repository : Repository)
    (name : String)
    (rule : Rule) : Except Error Repository :=
  match repository.tryInsert name rule with
  | (.ok (), next) => .ok next
  | (.error error, _) => .error error

/- Add rules in order. -/
def insertAll
    (repository : Repository) :
    List (String × Rule) → Except Error Repository
  | [] => .ok repository
  | (name, rule) :: rest =>
      match repository.tryInsert name rule with
      | (.ok (), next) => next.insertAll rest
      | (.error error, _) => .error error

/- The repository of named rules, in the given order. -/
def ofEntries
    (entries : List (String × Rule)) :
    Except Error Repository :=
  empty.insertAll entries

/- Equality up to the order of the entries. -/
def same
    (x y : Repository) : Bool :=
  x.size == y.size &&
    x.entries.all fun (name, rule) =>
      match y.get? name with
      | some other => rule.same other
      | none => false

end Repository

------------------------------------------------------------
-- Grammars
------------------------------------------------------------

/- A root field that is carried over as it is. -/
inductive ExtraValue where
  | text (value : String)
  | list (values : List String)
deriving DecidableEq

/- A grammar.  Extra root fields are in document order. -/
structure Grammar where
  name : String
  scopeName : String
  injectionSelector : Option String
  patterns : List Rule
  repository : Repository
  extra : List (String × ExtraValue)

namespace Grammar

def empty : Grammar :=
  ⟨"", "", none, [], .empty, []⟩

instance : Inhabited Grammar := ⟨empty⟩

/- Equality up to the order of repository entries. -/
def same
    (x y : Grammar) : Bool :=
  x.name == y.name && x.scopeName == y.scopeName &&
    x.injectionSelector == y.injectionSelector &&
    Rule.sameRules x.patterns y.patterns &&
    x.repository.same y.repository && x.extra == y.extra

------------------------------------------------------------
-- Visits
------------------------------------------------------------

def entryPath
    (name : String) : String :=
  "repository." ++ name

def rootPath : String := "patterns"

/-
  Every rule of a grammar with its path: those of repository
  entries first, then those of the root.
-/
def visit
    (grammar : Grammar) : List (String × Rule) :=
  grammar.repository.entries.flatMap
      (fun (name, rule) => rule.visit (entryPath name)) ++
    Rule.visitRules rootPath 0 grammar.patterns

end Grammar

------------------------------------------------------------
-- Checks
------------------------------------------------------------

/- The error for the first rule that is out of shape. -/
def firstShapeError? :
    List (String × Rule) → Option Error
  | [] => none
  | (path, rule) :: rest =>
      match rule.shapeFault? with
      | some fault => some (.invalidRule path fault.reason)
      | none => firstShapeError? rest

/- Check the shape of visited rules. -/
def checkShapes
    (rules : List (String × Rule)) : Except Error Unit :=
  match firstShapeError? rules with
  | some error => .error error
  | none => .ok ()

/- Check the shape of a rule and of those nested in it. -/
def Rule.validate
    (rule : Rule)
    (path : String) : Except Error Unit :=
  checkShapes (rule.visit path)

namespace Grammar

/- Check the shape of every rule. -/
def validate
    (grammar : Grammar) : Except Error Unit :=
  checkShapes grammar.visit

/- The name of the repository entry that a rule includes. -/
def localTarget?
    (rule : Rule) : Option String :=
  match rule.includeTarget.map String.toList with
  | some ('#' :: name) => some (String.ofList name)
  | _ => none

/- The diagnostic for an include without an entry. -/
def danglingInclude?
    (repository : Repository)
    (path : String)
    (rule : Rule) : Option Diagnostic :=
  match localTarget? rule with
  | some target =>
      if repository.contains target then none
      else
        some
          ⟨.warning, Rule.fieldPath path .includeTarget,
            .danglingInclude target⟩
  | none => none

/- The diagnostics for all includes without an entry. -/
def danglingIncludes
    (grammar : Grammar) : List Diagnostic :=
  grammar.visit.filterMap fun (path, rule) =>
    danglingInclude? grammar.repository path rule

/-
  Report every include without an entry, and return how many
  there are.
-/
def reportDangling
    (grammar : Grammar) : Run Nat := do
  let found := grammar.danglingIncludes
  found.forM fun diagnostic =>
    modify fun journal => journal.push diagnostic
  return found.length

end Grammar

end TextMate
