import TextMate.Json.Lexer

/-
  This file defines the reader of JSON values, and the reading
  of single members, strings, flags and counts for documents
  whose shape is known.

  Arrays and objects may be nested less than `depthLimit`
  deep.  A value that is skipped is only checked for its
  syntax, without a limit on nesting or numbers.

  Key definitions include:
    * `nextItem`
    * `nextKey`
    * `readValue`
    * `readObject`
    * `skipValue`
    * `readText`
    * `readWhole`
-/

namespace TextMate

namespace Json

open Text (isDigit)

------------------------------------------------------------
-- Members of Containers
------------------------------------------------------------

/-
  What comes next in a container: its end, or a member and
  the text from there on.
-/
inductive NextItem (text : List Char) where
  | close (rest : Rest text)
  | item (rest : Tail text)

def nextItem
    (first : Bool)
    (text : List Char) :
    Except Fault (NextItem text) :=
  match skipBlanks text with
  | ⟨[], _⟩ => .error (.here .endInList [])
  | ⟨c :: rest, hRest⟩ =>
      have hRest : rest.length + 1 ≤ text.length := hRest
      if c = ']' then .ok (.close ⟨rest, hRest⟩)
      else if first then .ok (.item ⟨c :: rest, hRest⟩)
      else if c = ',' then
        match skipBlanks rest with
        | ⟨[], _⟩ => .error (.here .endInValue [])
        | ⟨d :: rest', hRest'⟩ =>
            have hRest' : rest'.length + 1 ≤ rest.length :=
              hRest'
            if d = ']' then
              .error (.next .trailingComma (d :: rest'))
            else
              .ok (.item
                ⟨d :: rest', by
                  simp only [List.length_cons]; omega⟩)
      else .error (.next .expectedCommaInList (c :: rest))

/-
  What comes next in an object: its end, or a key and the
  text after it.
-/
inductive NextKey (text : List Char) where
  | close (rest : Rest text)
  | key (name : String) (rest : Rest text)

def readKey
    (text : List Char) :
    Except Fault (NextKey text) :=
  match readString text with
  | .error fault => .error fault
  | .ok (name, rest) => .ok (.key (String.ofList name) rest)

/- Make the text before a key longer. -/
def NextKey.extend
    {text longer : List Char}
    (hLonger : text.length ≤ longer.length) :
    NextKey text → NextKey longer
  | .close ⟨rest, hRest⟩ => .close ⟨rest, by omega⟩
  | .key name ⟨rest, hRest⟩ => .key name ⟨rest, by omega⟩

def nextKey
    (first : Bool)
    (text : List Char) :
    Except Fault (NextKey text) :=
  match skipBlanks text with
  | ⟨[], _⟩ => .error (.here .endInObject [])
  | ⟨c :: rest, hRest⟩ =>
      have hRest : rest.length + 1 ≤ text.length := hRest
      if c = '}' then .ok (.close ⟨rest, hRest⟩)
      else if first then
        if c = '"' then
          (readKey rest).map (NextKey.extend (by omega))
        else .error (.next .keyNotString (c :: rest))
      else if c = ',' then
        match skipBlanks rest with
        | ⟨[], _⟩ => .error (.here .endInValue [])
        | ⟨d :: rest', hRest'⟩ =>
            have hRest' : rest'.length + 1 ≤ rest.length :=
              hRest'
            if d = '"' then
              (readKey rest').map (NextKey.extend (by omega))
            else if d = '}' then
              .error (.next .trailingComma (d :: rest'))
            else .error (.next .keyNotString (d :: rest'))
      else .error (.next .expectedCommaInObject (c :: rest))

def readColon
    (text : List Char) :
    Except Fault (Rest text) :=
  match skipBlanks text with
  | ⟨[], _⟩ => .error (.here .endInObject [])
  | ⟨c :: rest, hRest⟩ =>
      if c = ':' then .ok ⟨rest, hRest⟩
      else .error (.next .expectedColon (c :: rest))

------------------------------------------------------------
-- Scalars
------------------------------------------------------------

/- A value that contains no other. -/
inductive Scalar where
  | null
  | bool (value : Bool)
  | number (value : Number)
  | string (value : String)

def Scalar.value : Scalar → Value
  | .null => .null
  | .bool value => .bool value
  | .number value => .number value
  | .string value => .string value

/- How a scalar is named when it is of the wrong type. -/
def Scalar.found : Scalar → Found
  | .null => .null
  | .bool value => .bool value
  | .number value => .number value
  | .string value => .string value

/- Read a word and give its meaning. -/
def readWord
    (word : List Char)
    (meaning : Scalar)
    (text : List Char) :
    Except Fault (Scalar × Tail text) :=
  (expectWord word text).map (fun rest => (meaning, rest))

/-
  Read a scalar that starts with the given character.  None
  when no scalar starts so.
-/
def readScalar?
    (c : Char)
    (text : List Char) :
    Option (Except Fault (Scalar × Rest (c :: text))) :=
  let shorten {α : Type} :
      Except Fault (α × Tail text) →
      Except Fault (α × Rest (c :: text)) :=
    Except.map fun (value, tail) => (value, .ofTail c tail)
  let tail {α : Type} :
      Except Fault (α × Rest text) →
      Except Fault (α × Tail text) :=
    Except.map fun (value, ⟨rest, hRest⟩) =>
      (value, ⟨rest, by omega⟩)
  if c = 'n' then
    some (shorten (readWord ['u', 'l', 'l'] .null text))
  else if c = 't' then
    some (shorten
      (readWord ['r', 'u', 'e'] (.bool true) text))
  else if c = 'f' then
    some (shorten
      (readWord ['a', 'l', 's', 'e'] (.bool false) text))
  else if c = '-' then
    some (shorten (tail
      ((readNumber true text).map fun (number, rest) =>
        (.number number, rest))))
  else if isDigit c then
    some ((readNumber false (c :: text)).map
      fun (number, rest) => (.number number, rest))
  else if c = '"' then
    some (shorten (tail
      ((readString text).map fun (value, rest) =>
        (.string (String.ofList value), rest))))
  else none

------------------------------------------------------------
-- Values
------------------------------------------------------------

/- Arrays and objects at this depth are refused. -/
def depthLimit : Nat := 128

/-
  Read a value.  `depth` is the number of levels that may
  still be opened, including the one that is refused.
-/
mutual

def readValue
    (depth : Nat)
    (text : List Char) :
    Except Fault (Value × Rest text) :=
  match skipBlanks text with
  | ⟨[], _⟩ => .error (.here .endInValue [])
  | ⟨c :: rest, hRest⟩ =>
      have hRest : rest.length + 1 ≤ text.length := hRest
      match readScalar? c rest with
      | some (.error fault) => .error fault
      | some (.ok (scalar, ⟨rest', hRest'⟩)) =>
          .ok (scalar.value, ⟨rest', by
            simp only [List.length_cons] at hRest'; omega⟩)
      | none =>
          if c = '[' then
            if depth ≤ 1 then
              .error (.next .nestedTooDeep (c :: rest))
            else
              match readItems (depth - 1) true rest with
              | .error fault => .error fault
              | .ok (items, ⟨rest', hRest'⟩) =>
                  .ok (.array items, ⟨rest', by omega⟩)
          else if c = '{' then
            if depth ≤ 1 then
              .error (.next .nestedTooDeep (c :: rest))
            else
              match readFields (depth - 1) true [] rest with
              | .error fault => .error fault
              | .ok (fields, ⟨rest', hRest'⟩) =>
                  .ok (.object fields, ⟨rest', by omega⟩)
          else .error (.next .expectedValue (c :: rest))
termination_by 2 * text.length

/- Read the items of an array up to its end. -/
def readItems
    (depth : Nat)
    (first : Bool)
    (text : List Char) :
    Except Fault (List Value × Rest text) :=
  match nextItem first text with
  | .error fault => .error fault
  | .ok (.close rest) => .ok ([], rest)
  | .ok (.item ⟨rest, hRest⟩) =>
      match readValue depth rest with
      | .error fault => .error fault
      | .ok (item, ⟨rest', hRest'⟩) =>
          match readItems depth false rest' with
          | .error fault => .error fault
          | .ok (items, ⟨last, hLast⟩) =>
              .ok (item :: items, ⟨last, by omega⟩)
termination_by 2 * text.length + 1

/-
  Read the members of an object up to its end and add them to
  the ones before.
-/
def readFields
    (depth : Nat)
    (first : Bool)
    (before : Object)
    (text : List Char) :
    Except Fault (Object × Rest text) :=
  match nextKey first text with
  | .error fault => .error fault
  | .ok (.close rest) => .ok (before, rest)
  | .ok (.key name ⟨rest, hRest⟩) =>
      match readColon rest with
      | .error fault => .error fault
      | .ok ⟨rest', hRest'⟩ =>
          match readValue depth rest' with
          | .error fault => .error fault
          | .ok (value, ⟨rest'', hRest''⟩) =>
              match readFields depth false
                  (Object.insert name value before) rest'' with
              | .error fault => .error fault
              | .ok (fields, ⟨last, hLast⟩) =>
                  .ok (fields, ⟨last, by omega⟩)
termination_by 2 * text.length + 1

end

------------------------------------------------------------
-- Skipped Values
------------------------------------------------------------

/- What is left after an exponent that is not needed. -/
def skipExponent
    (text : List Char) :
    Except Fault (Tail text) :=
  let unsigned : Tail text :=
    match text with
    | [] => .all []
    | c :: rest =>
        if c = '+' ∨ c = '-' then .afterFirst c rest
        else .all (c :: rest)
  match unsigned with
  | ⟨[], _⟩ => .error (.here .invalidNumber [])
  | ⟨c :: rest, hRest⟩ =>
      have hRest : rest.length + 1 ≤ text.length := hRest
      if isDigit c then
        .ok (.inside hRest (dropRun isDigit rest))
      else .error (.next .invalidNumber (c :: rest))

/- What is left after an exponent, if there is one. -/
def skipScale :
    (text : List Char) →
    Except Fault (Tail text)
  | [] => .ok (.all [])
  | c :: text =>
      if isExponentMark c then
        (skipExponent text).map (Tail.extend c)
      else .ok (.all (c :: text))

/- What is left after a fraction, if there is one. -/
def skipFraction :
    (text : List Char) →
    Except Fault (Tail text)
  | '.' :: text =>
      if startsWithDigit text then
        let dropped := dropRun isDigit text
        (skipScale dropped.val).map fun tail =>
          .extend '.' (dropped.trans tail)
      else .error (.next .invalidNumber text)
  | text => skipScale text

/- What is left after a number that is not needed. -/
def skipNumber :
    (text : List Char) →
    Except Fault (Rest text)
  | [] => .error (.here .invalidNumber [])
  | c :: text =>
      if c = '0' then
        if startsWithDigit text then
          .error (.next .invalidNumber text)
        else
          (skipFraction text).map (Rest.ofTail c)
      else if isDigit c then
        let dropped := dropRun isDigit text
        (skipFraction dropped.val).map fun tail =>
          .ofTail c (dropped.trans tail)
      else .error (.next .invalidNumber (c :: text))

/- What is left after an escape that is not needed. -/
def skipEscape :
    (text : List Char) →
    Except Fault (Rest text)
  | [] => .error (.here .endInString [])
  | 'u' :: text =>
      (readHex text).map fun (_, rest) => .extend 'u' rest
  | c :: text =>
      match simpleEscape? c with
      | some _ => .ok (.afterFirst c text)
      | none => .error (.next .invalidEscape (c :: text))

/- What is left after a string that is not needed. -/
def skipString
    (text : List Char) :
    Except Fault (Rest text) :=
  match text with
  | [] => .error (.here .endInString [])
  | '"' :: text => .ok (.afterFirst '"' text)
  | '\\' :: text =>
      match skipEscape text with
      | .error fault => .error fault
      | .ok ⟨rest, hRest⟩ =>
          (skipString rest).map fun last =>
            .extend '\\' (Rest.trans ⟨rest, hRest⟩ last)
  | c :: text =>
      if isControl c then
        .error (.looked .controlCharacter (c :: text))
      else
        (skipString text).map (Rest.extend c)
termination_by text.length
decreasing_by
  all_goals simp only [List.length_cons]
  all_goals omega

/-
  What is left after a scalar that is not needed, if one
  starts with the given character.
-/
def skipScalar?
    (c : Char)
    (text : List Char) :
    Option (Except Fault (Rest (c :: text))) :=
  let shorten :
      Except Fault (Tail text) →
      Except Fault (Rest (c :: text)) :=
    Except.map (Rest.ofTail c)
  let tail :
      Except Fault (Rest text) →
      Except Fault (Tail text) :=
    Except.map fun ⟨rest, hRest⟩ => ⟨rest, by omega⟩
  if c = 'n' then
    some (shorten (expectWord ['u', 'l', 'l'] text))
  else if c = 't' then
    some (shorten (expectWord ['r', 'u', 'e'] text))
  else if c = 'f' then
    some (shorten (expectWord ['a', 'l', 's', 'e'] text))
  else if c = '-' then
    some (shorten (tail (skipNumber text)))
  else if isDigit c then some (skipNumber (c :: text))
  else if c = '"' then
    some (shorten (tail (skipString text)))
  else none

/- How a list ends, and the faults where that is missing. -/
structure Marks where
  close : Char
  atEnd : Cause
  missingComma : Cause

def listMarks : Marks :=
  ⟨']', .endInList, .expectedCommaInList⟩

def objectMarks : Marks :=
  ⟨'\x7d', .endInObject, .expectedCommaInObject⟩

/-
  Where the next item starts that is not needed, or what is
  left after the end of the list.
-/
def nextSkipped
    (marks : Marks)
    (first : Bool)
    (text : List Char) :
    Except Fault (NextItem text) :=
  match skipBlanks text with
  | ⟨[], _⟩ => .error (.here marks.atEnd [])
  | ⟨c :: rest, hRest⟩ =>
      if c = marks.close then .ok (.close ⟨rest, hRest⟩)
      else if first then .ok (.item ⟨c :: rest, hRest⟩)
      else if c = ',' then
        .ok (.item (.inside hRest (.all rest)))
      else .error (.next marks.missingComma (c :: rest))

/- What is left after a key and its colon. -/
def skipKey
    (text : List Char) :
    Except Fault (Rest text) :=
  match skipBlanks text with
  | ⟨[], _⟩ => .error (.here .endInObject [])
  | ⟨c :: key, hKey⟩ =>
      if c = '"' then
        match skipString key with
        | .error fault => .error fault
        | .ok after =>
            (readColon after.val).map fun value =>
              .inside hKey (after.trans value)
      else .error (.next .keyNotString (c :: key))

/- What is left after a value that is not needed. -/
mutual

def skipValue
    (text : List Char) :
    Except Fault (Rest text) :=
  match skipBlanks text with
  | ⟨[], _⟩ => .error (.here .endInValue [])
  | ⟨c :: rest, hRest⟩ =>
      have hRest : rest.length + 1 ≤ text.length := hRest
      match skipScalar? c rest with
      | some (.error fault) => .error fault
      | some (.ok ⟨rest', hRest'⟩) =>
          .ok ⟨rest', by
            simp only [List.length_cons] at hRest'; omega⟩
      | none =>
          if c = '[' then
            match skipItems true rest with
            | .error fault => .error fault
            | .ok last => .ok (.inside hRest last)
          else if c = '{' then
            match skipFields true rest with
            | .error fault => .error fault
            | .ok last => .ok (.inside hRest last)
          else .error (.next .expectedValue (c :: rest))
termination_by 2 * text.length

/-
  What is left after the items of an array.  A comma has to
  be followed by an item.
-/
def skipItems
    (first : Bool)
    (text : List Char) :
    Except Fault (Rest text) :=
  match nextSkipped listMarks first text with
  | .error fault => .error fault
  | .ok (.close rest) => .ok rest
  | .ok (.item ⟨item, hItem⟩) =>
      match skipValue item with
      | .error fault => .error fault
      | .ok ⟨rest, hRest⟩ =>
          match skipItems false rest with
          | .error fault => .error fault
          | .ok last =>
              .ok
                (Tail.shorten ⟨item, hItem⟩
                  (Rest.trans ⟨rest, hRest⟩ last))
termination_by 2 * text.length + 1

/-
  What is left after the members of an object.  A comma has
  to be followed by a key.
-/
def skipFields
    (first : Bool)
    (text : List Char) :
    Except Fault (Rest text) :=
  match nextSkipped objectMarks first text with
  | .error fault => .error fault
  | .ok (.close rest) => .ok rest
  | .ok (.item ⟨member, hMember⟩) =>
      match skipKey member with
      | .error fault => .error fault
      | .ok ⟨value, hValue⟩ =>
          match skipValue value with
          | .error fault => .error fault
          | .ok ⟨rest, hRest⟩ =>
              match skipFields false rest with
              | .error fault => .error fault
              | .ok last =>
                  .ok
                    (Tail.shorten ⟨member, hMember⟩
                      (Rest.trans ⟨value, hValue⟩
                        (Rest.trans ⟨rest, hRest⟩ last)))
termination_by 2 * text.length + 1

end

------------------------------------------------------------
-- Values of a Known Type
------------------------------------------------------------

/-
  The fault for a value that starts with the given character
  and is not of the expected type.  A scalar is read first.
-/
def wrongStart
    (expected : String)
    (c : Char)
    (text : List Char) : Fault :=
  match readScalar? c text with
  | some (.error fault) => fault
  | some (.ok (scalar, ⟨rest, _⟩)) =>
      match scalar with
      | .number _ =>
          .looked (.wrongType scalar.found expected) rest
      | _ => .here (.wrongType scalar.found expected) rest
  | none =>
      if c = '[' then
        .looked (.wrongType .sequence expected) (c :: text)
      else if c = '{' then
        .looked (.wrongType .map expected) (c :: text)
      else .next .expectedValue (c :: text)

def readText
    (text : List Char) :
    Except Fault (String × Rest text) :=
  match skipBlanks text with
  | ⟨[], _⟩ => .error (.here .endInValue [])
  | ⟨c :: rest, hRest⟩ =>
      have hRest : rest.length + 1 ≤ text.length := hRest
      if c = '"' then
        match readString rest with
        | .error fault => .error fault
        | .ok (value, ⟨rest', hRest'⟩) =>
            .ok (String.ofList value, ⟨rest', by omega⟩)
      else .error (wrongStart "a string" c rest)

/- Read a string or a null. -/
def readOptionalText
    (text : List Char) :
    Except Fault (Option String × Rest text) :=
  match skipBlanks text with
  | ⟨'n' :: rest, hRest⟩ =>
      have hRest : rest.length + 1 ≤ text.length := hRest
      (expectWord ['u', 'l', 'l'] rest).map
        fun ⟨rest', hRest'⟩ => (none, ⟨rest', by omega⟩)
  | _ =>
      (readText text).map fun (value, rest) =>
        (some value, rest)

/- Read a truth value. -/
def readFlag
    (text : List Char) :
    Except Fault (Bool × Rest text) :=
  match skipBlanks text with
  | ⟨[], _⟩ => .error (.here .endInValue [])
  | ⟨c :: rest, hRest⟩ =>
      have hRest : rest.length + 1 ≤ text.length := hRest
      match c, readScalar? c rest with
      | _, some (.error fault) => .error fault
      | _, some (.ok (.bool value, ⟨rest', hRest'⟩)) =>
          .ok (value, ⟨rest', by
            simp only [List.length_cons] at hRest'; omega⟩)
      | c, _ => .error (wrongStart "a boolean" c rest)

/- Read a number that counts something. -/
def readCount
    (text : List Char) :
    Except Fault (Nat × Rest text) :=
  match skipBlanks text with
  | ⟨[], _⟩ => .error (.here .endInValue [])
  | ⟨c :: rest, hRest⟩ =>
      have hRest : rest.length + 1 ≤ text.length := hRest
      match c, readScalar? c rest with
      | _, some (.error fault) => .error fault
      | _, some (.ok
          (.number (.integer (.ofNat n)), ⟨rest', hRest'⟩)) =>
          .ok (n, ⟨rest', by
            simp only [List.length_cons] at hRest'; omega⟩)
      | _, some (.ok (.number (.integer n), ⟨rest', _⟩)) =>
          .error (.looked
            (.wrongValue (.number (.integer n)) "usize") rest')
      | c, _ => .error (wrongStart "usize" c rest)

/-
  Read an object, given the number of levels that may still
  be opened.
-/
def readObject
    (depth : Nat)
    (text : List Char) :
    Except Fault (Object × Rest text) :=
  match skipBlanks text with
  | ⟨[], _⟩ => .error (.here .endInValue [])
  | ⟨c :: rest, hRest⟩ =>
      have hRest : rest.length + 1 ≤ text.length := hRest
      if c = '{' then
        if depth ≤ 1 then
          .error (.next .nestedTooDeep (c :: rest))
        else
          match readFields (depth - 1) true [] rest with
          | .error fault => .error fault
          | .ok (fields, ⟨rest', hRest'⟩) =>
              .ok (fields, ⟨rest', by omega⟩)
      else .error (wrongStart "a map" c rest)

------------------------------------------------------------
-- Whole Texts
------------------------------------------------------------

/- Nothing but blanks may follow a value. -/
def checkEnd
    (text : List Char) :
    Except Fault Unit :=
  match skipBlanks text with
  | ⟨[], _⟩ => .ok ()
  | ⟨rest, _⟩ => .error (.next .trailingCharacters rest)

/- Read a whole text with a reader for its value. -/
def readWhole
    {α : Type}
    (read :
      (text : List Char) → Except Fault (α × Rest text))
    (supply : Supply)
    (text : List Char) :
    Except Failure α :=
  let result : Except Fault α :=
    match read text with
    | .error fault => .error fault
    | .ok (value, ⟨rest, _⟩) =>
        (checkEnd rest).map fun _ => value
  match result with
  | .ok value => .ok value
  | .error fault =>
      .error ⟨fault.cause, fault.place supply text⟩

end Json

end TextMate
