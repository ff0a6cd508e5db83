import TextMate.Document.Reader

/-
  This file defines the layout settings of a formatter and how
  they are read from JSON.

  Settings that are missing keep their default.  They may also
  be given as an array, in order.

  Key definitions include:
    * `Style`
    * `Style.default`
    * `Style.ofText`
-/

namespace TextMate

open Json (Rest Fault)

/- Layout settings. -/
structure Style where
  edition : String
  tabSpaces : Nat
  hardTabs : Bool
  maxWidth : Nat
deriving DecidableEq

namespace Style

/- The settings where none are given. -/
def default : Style :=
  ⟨"2024", 4, false, 100⟩

instance : Inhabited Style := ⟨default⟩

/- The settings that a formatter takes in one argument. -/
def configuration
    (style : Style) : String :=
  "tab_spaces=" ++ toString style.tabSpaces ++
    ",hard_tabs=" ++
    (if style.hardTabs then "true" else "false") ++
    ",max_width=" ++ toString style.maxWidth

------------------------------------------------------------
-- Settings by Name
------------------------------------------------------------

/- The settings that were read so far. -/
structure Parts where
  edition : Option String
  tabSpaces : Option Nat
  hardTabs : Option Bool
  maxWidth : Option Nat

/- No setting at all. -/
def Parts.empty : Parts :=
  ⟨none, none, none, none⟩

/- The settings, with defaults for those that are missing. -/
def Parts.style
    (parts : Parts) : Style :=
  ⟨parts.edition.getD default.edition,
    parts.tabSpaces.getD default.tabSpaces,
    parts.hardTabs.getD default.hardTabs,
    parts.maxWidth.getD default.maxWidth⟩

/- Skip the value of a setting that is not known. -/
def skipSetting
    (text : List Char) :
    Except Fault (Unit × Rest text) :=
  (Json.skipValue text).map fun rest => ((), rest)

def readSetting
    (parts : Parts)
    (name : String)
    {text : List Char}
    (rest : Rest text) :
    Except Fault (Parts × Rest text) :=
  if name = "edition" then
    (Document.readNewMember name parts.edition.isSome
      Json.readText rest).map fun (value, rest) =>
        ({ parts with edition := some value }, rest)
  else if name = "tab_spaces" then
    (Document.readNewMember name parts.tabSpaces.isSome
      Json.readCount rest).map fun (value, rest) =>
        ({ parts with tabSpaces := some value }, rest)
  else if name = "hard_tabs" then
    (Document.readNewMember name parts.hardTabs.isSome
      Json.readFlag rest).map fun (value, rest) =>
        ({ parts with hardTabs := some value }, rest)
  else if name = "max_width" then
    (Document.readNewMember name parts.maxWidth.isSome
      Json.readCount rest).map fun (value, rest) =>
        ({ parts with maxWidth := some value }, rest)
  else
    (Document.readMember skipSetting rest).map
      fun (_, rest) => (parts, rest)

def readSettings
    (first : Bool)
    (parts : Parts)
    (text : List Char) :
    Except Fault (Parts × Rest text) :=
  match Json.nextKey first text with
  | .error fault => .error fault
  | .ok (.close rest) => .ok (parts, rest)
  | .ok (.key name rest) =>
      match readSetting parts name rest with
      | .error fault => .error fault
      | .ok (parts, ⟨rest', hRest'⟩) =>
          match readSettings false parts rest' with
          | .error fault => .error fault
          | .ok (parts, ⟨last, hLast⟩) =>
              .ok (parts, ⟨last, by omega⟩)
termination_by text.length

------------------------------------------------------------
-- Settings in Order
------------------------------------------------------------

/- A setting by its place in an array. -/
inductive Place where
  | edition
  | tabSpaces
  | hardTabs
  | maxWidth

def readPlace
    (parts : Parts)
    (text : List Char) :
    Place → Except Fault (Parts × Rest text)
  | .edition =>
      (Json.readText text).map fun (value, rest) =>
        ({ parts with edition := some value }, rest)
  | .tabSpaces =>
      (Json.readCount text).map fun (value, rest) =>
        ({ parts with tabSpaces := some value }, rest)
  | .hardTabs =>
      (Json.readFlag text).map fun (value, rest) =>
        ({ parts with hardTabs := some value }, rest)
  | .maxWidth =>
      (Json.readCount text).map fun (value, rest) =>
        ({ parts with maxWidth := some value }, rest)

def readArrayEnd
    (text : List Char) : Except Fault (Rest text) :=
  match Json.skipBlanks text with
  | ⟨[], _⟩ => .error (.here .endInList [])
  | ⟨c :: rest, hRest⟩ =>
      if c = ']' then .ok ⟨rest, hRest⟩
      else if c = ',' then
        match Json.skipBlanks rest with
        | ⟨']' :: rest', _⟩ =>
            .error (.next .trailingComma (']' :: rest'))
        | ⟨rest', _⟩ =>
            .error (.next .trailingCharacters rest')
      else .error (.next .trailingCharacters (c :: rest))

/- Read the settings at the places that are left. -/
def readArray
    (first : Bool)
    (parts : Parts)
    (text : List Char) :
    List Place → Except Fault (Parts × Rest text)
  | [] => (readArrayEnd text).map fun rest => (parts, rest)
  | place :: places =>
      match Json.nextItem first text with
      | .error fault => .error fault
      | .ok (.close rest) => .ok (parts, rest)
      | .ok (.item ⟨rest, hRest⟩) =>
          match readPlace parts rest place with
          | .error fault => .error fault
          | .ok (parts, ⟨rest', hRest'⟩) =>
              match readArray false parts rest' places with
              | .error fault => .error fault
              | .ok (parts, ⟨last, hLast⟩) =>
                  .ok (parts, ⟨last, by omega⟩)

------------------------------------------------------------
-- Whole Settings
------------------------------------------------------------

/- Read layout settings. -/
def read
    (text : List Char) :
    Except Fault (Style × Rest text) :=
  match Json.skipBlanks text with
  | ⟨[], _⟩ => .error (.here .endInValue [])
  | ⟨c :: rest, hRest⟩ =>
      have hRest : rest.length + 1 ≤ text.length := hRest
      if c = '{' then
        match readSettings true .empty rest with
        | .error fault => .error fault
        | .ok (parts, last) =>
            .ok (parts.style, .inside hRest last)
      else if c = '[' then
        match readArray true .empty rest
            [.edition, .tabSpaces, .hardTabs, .maxWidth] with
        | .error fault => .error fault
        | .ok (parts, last) =>
            .ok (parts.style, .inside hRest last)
      else
        .error (Json.wrongStart "struct FormatStyle" c rest)

/- The layout settings that a whole text holds. -/
def ofText
    (supply : Json.Supply)
    (text : String) :
    Except Json.Failure Style :=
  Json.readWhole read supply text.toList

end Style

end TextMate
