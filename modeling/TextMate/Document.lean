import TextMate.Json.Printer

/-
  This file defines grammar documents: the JSON form of a
  grammar, with rules kept as plain JSON objects.

  Rules keep keys that are unknown and values of any type, and
  a repository keeps names that are used twice.

  Key definitions include:
    * `Document`
    * `Document.members`
    * `Document.text`
    * `Document.same`
-/

namespace TextMate

/- A grammar as it is written in JSON. -/
structure Document where
  name : String
  scopeName : String
  injectionSelector : Option String
  patterns : List Json.Object
  repository : List (String × Json.Object)
  extra : Json.Object
deriving Inhabited

namespace Document

------------------------------------------------------------
-- Written Form
------------------------------------------------------------

/- The member for the injection selector, if there is one. -/
def selectorMember
    (document : Document) : Json.Object :=
  match document.injectionSelector with
  | some selector =>
      [("injectionSelector", .string selector)]
  | none => []

/- The member for the repository, if it has an entry. -/
def repositoryMember
    (document : Document) : Json.Object :=
  if document.repository.isEmpty then []
  else
    [("repository", .object
      (document.repository.map fun (name, rule) =>
        (name, .object rule)))]

/-
  The members of the JSON object for a document, in order.
  The members that are not modelled come last.
-/
def members
    (document : Document) : Json.Object :=
  [("name", .string document.name),
    ("scopeName", .string document.scopeName)] ++
    document.selectorMember ++
    [("patterns",
      .array (document.patterns.map Json.Value.object))] ++
    document.repositoryMember ++ document.extra

/- The text of a document, with a tab per level. -/
def text
    (document : Document) : String :=
  Json.Object.broadText document.members

------------------------------------------------------------
-- Equality
------------------------------------------------------------

/- Two lists agree place by place. -/
def sameList
    {α : Type}
    (same : α → α → Bool) : List α → List α → Bool
  | [], [] => true
  | x :: xs, y :: ys => same x y && sameList same xs ys
  | _, _ => false

/-
  Equality of documents.  The order of the keys of an object
  does not matter, and that of repository entries does.
-/
def same
    (x y : Document) : Bool :=
  x.name == y.name && x.scopeName == y.scopeName &&
    x.injectionSelector == y.injectionSelector &&
    sameList Json.Object.same x.patterns y.patterns &&
    sameList
      (fun a b => a.1 == b.1 && Json.Object.same a.2 b.2)
      x.repository y.repository &&
    Json.Object.same x.extra y.extra

end Document

end TextMate
