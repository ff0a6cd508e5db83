import TextMate.Document
import TextMate.Json.Reader

/-
  This file defines the reading of a grammar document.

  The name and the scope name have to be there, and no field
  that is modelled may be there twice.  Any other member keeps
  the place of its first key and the value of its last.

  Key definitions include:
    * `duplicateFault`
    * `Document.Parts`
    * `Document.read`
    * `Document.ofText`
-/

namespace TextMate

open Json (Rest Tail Fault Cause)

------------------------------------------------------------
-- Rules
------------------------------------------------------------

namespace Document

/- Read rules up to the end of their array. -/
def readRules
    (depth : Nat)
    (first : Bool)
    (text : List Char) :
    Except Fault (List Json.Object × Rest text) :=
  match Json.nextItem first text with
  | .error fault => .error fault
  | .ok (.close rest) => .ok ([], rest)
  | .ok (.item ⟨rest, hRest⟩) =>
      match Json.readObject depth rest with
      | .error fault => .error fault
      | .ok (rule, ⟨rest', hRest'⟩) =>
          match readRules depth false rest' with
          | .error fault => .error fault
          | .ok (rules, ⟨last, hLast⟩) =>
              .ok (rule :: rules, ⟨last, by omega⟩)
termination_by text.length

/- Read an array of rules. -/
def readPatterns
    (depth : Nat)
    (text : List Char) :
    Except Fault (List Json.Object × Rest text) :=
  match Json.skipBlanks text with
  | ⟨[], _⟩ => .error (.here .endInValue [])
  | ⟨c :: rest, hRest⟩ =>
      have hRest : rest.length + 1 ≤ text.length := hRest
      if c = '[' then
        if depth ≤ 1 then
          .error (.next .nestedTooDeep (c :: rest))
        else
          match readRules (depth - 1) true rest with
          | .error fault => .error fault
          | .ok (rules, last) => .ok (rules, .inside hRest last)
      else .error (Json.wrongStart "a sequence" c rest)

/- Read repository entries up to the end of their object. -/
def readEntries
    (depth : Nat)
    (first : Bool)
    (text : List Char) :
    Except Fault
      (List (String × Json.Object) × Rest text) :=
  match Json.nextKey first text with
  | .error fault => .error fault
  | .ok (.close rest) => .ok ([], rest)
  | .ok (.key name ⟨rest, hRest⟩) =>
      match Json.readColon rest with
      | .error fault => .error fault
      | .ok ⟨rest', hRest'⟩ =>
          match Json.readObject depth rest' with
          | .error fault => .error fault
          | .ok (rule, ⟨rest'', hRest''⟩) =>
              match readEntries depth false rest'' with
              | .error fault => .error fault
              | .ok (entries, ⟨last, hLast⟩) =>
                  .ok ((name, rule) :: entries,
                    ⟨last, by omega⟩)
termination_by text.length

def readRepository
    (depth : Nat)
    (text : List Char) :
    Except Fault
      (List (String × Json.Object) × Rest text) :=
  match Json.skipBlanks text with
  | ⟨[], _⟩ => .error (.here .endInValue [])
  | ⟨c :: rest, hRest⟩ =>
      have hRest : rest.length + 1 ≤ text.length := hRest
      if c = '{' then
        if depth ≤ 1 then
          .error (.next .nestedTooDeep (c :: rest))
        else
          match readEntries (depth - 1) true rest with
          | .error fault => .error fault
          | .ok (entries, last) =>
              .ok (entries, .inside hRest last)
      else
        .error (Json.wrongStart
          "a map of rule names to rules" c rest)

------------------------------------------------------------
-- Fields of the Root
------------------------------------------------------------

/- The fields of a document that were read so far. -/
structure Parts where
  name : Option String
  scopeName : Option String
  injectionSelector : Option (Option String)
  patterns : Option (List Json.Object)
  repository : Option (List (String × Json.Object))
  extra : Json.Object

/- No field at all. -/
def Parts.empty : Parts :=
  ⟨none, none, none, none, none, []⟩

/-
  The document for the fields of a root, or the name of a
  field that is missing.
-/
def Parts.document?
    (parts : Parts) : Except String Document :=
  match parts.name, parts.scopeName with
  | none, _ => .error "name"
  | _, none => .error "scopeName"
  | some name, some scopeName =>
      .ok
        { name := name
          scopeName := scopeName
          injectionSelector := parts.injectionSelector.join
          patterns := parts.patterns.getD []
          repository := parts.repository.getD []
          extra := parts.extra }

/-
  The fault for a key that is there for the second time.  It
  is met where the object cannot go on.
-/
def duplicateFault
    (name : String)
    (text : List Char) : Fault :=
  match Json.skipBlanks text with
  | ⟨'}' :: rest, _⟩ => .here (.duplicateField name) rest
  | ⟨rest, _⟩ => .looked (.duplicateField name) rest

/- Read the value of a field after its key. -/
def readMember
    {α : Type}
    {text : List Char}
    (read :
      (text : List Char) → Except Fault (α × Rest text))
    (rest : Rest text) :
    Except Fault (α × Rest text) :=
  match Json.readColon rest.val with
  | .error fault => .error fault
  | .ok ⟨rest', hRest'⟩ =>
      match read rest' with
      | .error fault => .error fault
      | .ok (value, ⟨last, hLast⟩) =>
          .ok (value, ⟨last, by
            have := rest.property; omega⟩)

/- Read the value of a field that was not there before. -/
def readNewMember
    {α : Type}
    {text : List Char}
    (name : String)
    (isPresent : Bool)
    (read :
      (text : List Char) → Except Fault (α × Rest text))
    (rest : Rest text) :
    Except Fault (α × Rest text) :=
  if isPresent then .error (duplicateFault name rest.val)
  else readMember read rest

/- Read the value under a key of the root. -/
def readField
    (depth : Nat)
    (parts : Parts)
    (name : String)
    {text : List Char}
    (rest : Rest text) :
    Except Fault (Parts × Rest text) :=
  if name = "name" then
    (readNewMember name parts.name.isSome Json.readText
      rest).map fun (value, rest) =>
        ({ parts with name := some value }, rest)
  else if name = "scopeName" then
    (readNewMember name parts.scopeName.isSome Json.readText
      rest).map fun (value, rest) =>
        ({ parts with scopeName := some value }, rest)
  else if name = "injectionSelector" then
    (readNewMember name parts.injectionSelector.isSome
      Json.readOptionalText rest).map fun (value, rest) =>
        ({ parts with injectionSelector := some value }, rest)
  else if name = "patterns" then
    (readNewMember name parts.patterns.isSome
      (readPatterns depth) rest).map fun (value, rest) =>
        ({ parts with patterns := some value }, rest)
  else if name = "repository" then
    (readNewMember name parts.repository.isSome
      (readRepository depth) rest).map fun (value, rest) =>
        ({ parts with repository := some value }, rest)
  else
    (readMember (Json.readValue depth) rest).map
      fun (value, rest) =>
        ({ parts with
            extra := Json.Object.insert name value parts.extra
          }, rest)

/- Read the fields of the root up to its end. -/
def readFields
    (depth : Nat)
    (first : Bool)
    (parts : Parts)
    (text : List Char) :
    Except Fault (Parts × Rest text) :=
  match Json.nextKey first text with
  | .error fault => .error fault
  | .ok (.close rest) => .ok (parts, rest)
  | .ok (.key name rest) =>
      match readField depth parts name rest with
      | .error fault => .error fault
      | .ok (parts, ⟨rest', hRest'⟩) =>
          match readFields depth false parts rest' with
          | .error fault => .error fault
          | .ok (parts, ⟨last, hLast⟩) =>
              .ok (parts, ⟨last, by omega⟩)
termination_by text.length

def read
    (text : List Char) :
    Except Fault (Document × Rest text) :=
  match Json.skipBlanks text with
  | ⟨[], _⟩ => .error (.here .endInValue [])
  | ⟨c :: rest, hRest⟩ =>
      have hRest : rest.length + 1 ≤ text.length := hRest
      if c = '{' then
        match readFields (Json.depthLimit - 1) true .empty
            rest with
        | .error fault => .error fault
        | .ok (parts, last) =>
            match parts.document? with
            | .error name =>
                .error (.here (.missingField name) last.val)
            | .ok document =>
                .ok (document, .inside hRest last)
      else .error (Json.wrongStart "struct RawGrammar" c rest)

/- The document that a whole text holds. -/
def ofText
    (supply : Json.Supply)
    (text : String) :
    Except Json.Failure Document :=
  Json.readWhole read supply text.toList

/- The rule that a whole text holds. -/
def ruleOfText
    (text : String) :
    Except Json.Failure Json.Object :=
  Json.readWhole (Json.readObject Json.depthLimit) .memory
    text.toList

end Document

end TextMate
