/-
  This file defines paths: texts that lead from a folder to an
  entry of a disk, step by step.

  Key definitions include:
    * `Path.isAbsolute`
    * `Path.join`
    * `Path.Step`
    * `Path.steps`
    * `Path.components`
    * `Path.parents`
    * `Path.hasExtension`
-/

namespace TextMate

namespace Path

------------------------------------------------------------
-- Texts
------------------------------------------------------------

/- The path starts at the root. -/
def isAbsolute
    (path : String) : Bool :=
  path.toList.head? == some '/'

/- The path ends in a slash, so it has to name a folder. -/
def endsInSlash
    (path : String) : Bool :=
  path.toList.getLast? == some '/'

/-
  The path that leads on from a folder.  An absolute path does
  not depend on the folder.
-/
def join
    (folder : String)
    (path : String) : String :=
  if isAbsolute path || folder == "" then path
  else if endsInSlash folder then folder ++ path
  else folder ++ "/" ++ path

/- The parts of a text between slashes. -/
def parts : List Char → List (List Char)
  | [] => [[]]
  | c :: rest =>
      if c = '/' then [] :: parts rest
      else
        match parts rest with
        | [] => [[c]]
        | part :: more => (c :: part) :: more

------------------------------------------------------------
-- Steps
------------------------------------------------------------

/- A step of a path, from a folder to an entry. -/
inductive Step where
  | stay
  | up
  | down (name : String)
deriving DecidableEq

def Step.text : Step → String
  | .stay => "."
  | .up => ".."
  | .down name => name

/- The step that a part stands for; an empty part is none. -/
def step? : List Char → Option Step
  | [] => none
  | ['.'] => some .stay
  | ['.', '.'] => some .up
  | name => some (.down (String.ofList name))

/- The steps of a path, in order. -/
def steps
    (path : String) : List Step :=
  (parts path.toList).filterMap step?

------------------------------------------------------------
-- Components
------------------------------------------------------------

/- Steps that lead somewhere, behind the first step. -/
def moving
    (steps : List Step) : List Step :=
  steps.filter (· != .stay)

/-
  The steps that count: a stay counts only at the start of a
  relative path.
-/
def components
    (path : String) : List Step :=
  match steps path with
  | .stay :: rest =>
      if isAbsolute path then moving rest
      else .stay :: moving rest
  | steps => moving steps

/- A part counts if its step does: a stay only as the first. -/
def counts
    (isFirst : Bool)
    (part : List Char) : Bool :=
  match step? part with
  | none => false
  | some .stay => isFirst
  | some _ => true

------------------------------------------------------------
-- Parents
------------------------------------------------------------

/- The first parts of a path, up to each one that counts. -/
def beginnings
    (isFirst : Bool) :
    List (List Char) → List (List (List Char))
  | [] => []
  | part :: rest =>
      let later := (beginnings false rest).map (part :: ·)
      if counts isFirst part then [part] :: later else later

/- The path with the given parts. -/
def ofParts
    (parts : List (List Char)) : String :=
  String.ofList (List.intercalate ['/'] parts)

/-
  The parents of a path, the nearest one first.  They keep the
  text of the path up to a component.
-/
def parents
    (path : String) : List String :=
  let base := if isAbsolute path then "/" else ""
  let ways :=
    (beginnings true (parts path.toList)).map ofParts
  (base :: ways).dropLast.reverse

/- The nearest parent of a path. -/
def parent?
    (path : String) : Option String :=
  (parents path).head?

------------------------------------------------------------
-- Extensions
------------------------------------------------------------

/-
  The name of a file has an extension: it ends in a dot and
  the extension, behind at least one character.
-/
def hasExtension
    (extension : String)
    (name : String) : Bool :=
  let ending := '.' :: extension.toList
  ending.isSuffixOf name.toList &&
    ending.length < name.toList.length

end Path

end TextMate
