import TextMate.Document.Reader
import TextMate.Proofs.Json.Within

/-
  This file defines the documents that a reader can give: no
  object has a key twice, rules and root fields are nested
  within the limit, and no root field that is not modelled has
  the key of one that is.

  Main declarations:
    * `Document.modelledKeys`
    * `Document.Within`
-/

namespace TextMate

namespace Document

/- The keys of the root fields that are modelled. -/
def modelledKeys : List String :=
  ["name", "scopeName", "injectionSelector", "patterns",
    "repository"]

/-
  The document is within the limit on nesting, and tidy.  A
  rule stands two levels below the root, and a root field one.
-/
structure Within
    (numbers : Json.Number → Prop)
    (document : Document) : Prop where
  entries :
    ∀ entry ∈ document.repository,
      (Json.Value.object entry.2).Within numbers
        (Json.depthLimit - 2)
  patterns :
    ∀ members ∈ document.patterns,
      (Json.Value.object members).Within numbers
        (Json.depthLimit - 2)
  extra :
    ∀ field ∈ document.extra,
      field.2.Within numbers (Json.depthLimit - 1)
  keys : document.extra.keys.Nodup
  unmodelled :
    ∀ key ∈ document.extra.keys, key ∉ modelledKeys

end Document

end TextMate
