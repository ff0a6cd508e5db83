import TextMate.Json.Decimal
import TextMate.Json.Value
import TextMate.Text.Quoted
import TextMate.Text.Word

/-
  This file defines what can be wrong with a JSON text and
  where it is reported.

  A fault keeps the part of the text that was left when it
  was met, so a place is computed only for a report.  A text
  that comes from a stream counts a byte that was looked at
  but not taken; a text in memory does not always.

  Key definitions include:
    * `Found`
    * `Cause`
    * `Cause.message`
    * `Supply`
    * `Fault`
    * `Place`
    * `Fault.place`
    * `Failure`
-/

namespace TextMate

namespace Json

------------------------------------------------------------
-- Causes
------------------------------------------------------------

/- The kind of value that stands where another is needed. -/
inductive Found where
  | null
  | bool (value : Bool)
  | number (value : Number)
  | string (value : String)
  | sequence
  | map
deriving DecidableEq

/- What is wrong with a text. -/
inductive Cause where
  | endInList
  | endInObject
  | endInString
  | endInValue
  | expectedColon
  | expectedCommaInList
  | expectedCommaInObject
  | expectedWord
  | expectedValue
  | invalidEscape
  | invalidNumber
  | numberOutOfRange
  | controlCharacter
  | keyNotString
  | loneSurrogate
  | endOfHexEscape
  | trailingComma
  | trailingCharacters
  | nestedTooDeep
  | missingField (name : String)
  | duplicateField (name : String)
  | wrongType (found : Found) (expected : String)
  | wrongValue (found : Found) (expected : String)
deriving DecidableEq

/- How a value is named in a message. -/
def Found.describe : Found → String
  | .null => "null"
  | .bool value =>
      "boolean `" ++ (if value then "true" else "false") ++ "`"
  | .number (.integer value) =>
      "integer `" ++ toString value ++ "`"
  | .number (.double value) =>
      "floating point `" ++ String.ofList value.text ++ "`"
  | .string value => "string " ++ Text.quote value
  | .sequence => "sequence"
  | .map => "map"

def Cause.message : Cause → String
  | .endInList => "EOF while parsing a list"
  | .endInObject => "EOF while parsing an object"
  | .endInString => "EOF while parsing a string"
  | .endInValue => "EOF while parsing a value"
  | .expectedColon => "expected `:`"
  | .expectedCommaInList => "expected `,` or `]`"
  | .expectedCommaInObject => "expected `,` or `\x7d`"
  | .expectedWord => "expected ident"
  | .expectedValue => "expected value"
  | .invalidEscape => "invalid escape"
  | .invalidNumber => "invalid number"
  | .numberOutOfRange => "number out of range"
  | .controlCharacter =>
      "control character (\\u0000-\\u001F) found while " ++
        "parsing a string"
  | .keyNotString => "key must be a string"
  | .loneSurrogate =>
      "lone leading surrogate in hex escape"
  | .endOfHexEscape => "unexpected end of hex escape"
  | .trailingComma => "trailing comma"
  | .trailingCharacters => "trailing characters"
  | .nestedTooDeep => "recursion limit exceeded"
  | .missingField name => "missing field `" ++ name ++ "`"
  | .duplicateField name =>
      "duplicate field `" ++ name ++ "`"
  | .wrongType found expected =>
      "invalid type: " ++ found.describe ++ ", expected " ++
        expected
  | .wrongValue found expected =>
      "invalid value: " ++ found.describe ++ ", expected " ++
        expected

------------------------------------------------------------
-- Faults
------------------------------------------------------------

/- How a text reaches the reader. -/
inductive Supply where
  | memory
  | stream
deriving DecidableEq

/-
  A cause with the text that was left.  The reported place
  lies `ahead` bytes into it, or `held` bytes for a stream.
-/
structure Fault where
  cause : Cause
  rest : List Char
  ahead : Nat
  held : Nat

namespace Fault

/- A fault at the place that was reached. -/
def here
    (cause : Cause)
    (rest : List Char) : Fault :=
  ⟨cause, rest, 0, 0⟩

/- A fault that counts the byte that was refused. -/
def next
    (cause : Cause)
    (rest : List Char) : Fault :=
  ⟨cause, rest, 1, 1⟩

/-
  A fault at the place that was reached, where a stream has
  already looked at the next byte.
-/
def looked
    (cause : Cause)
    (rest : List Char) : Fault :=
  ⟨cause, rest, 0, 1⟩

end Fault

------------------------------------------------------------
-- Places
------------------------------------------------------------

/- A line, from one, and the bytes of it that come before. -/
structure Place where
  line : Nat
  column : Nat
deriving DecidableEq

/- The place after a number of bytes of a text. -/
def Place.after
    (place : Place) : List Char → Nat → Place
  | [], _ => place
  | c :: rest, bytes =>
      if bytes < c.utf8Size then
        { place with column := place.column + bytes }
      else if c = '\n' then
        Place.after ⟨place.line + 1, 0⟩ rest (bytes - 1)
      else
        Place.after
          { place with column := place.column + c.utf8Size }
          rest (bytes - c.utf8Size)

/- The place of a fault in the text that was read. -/
def Fault.place
    (fault : Fault)
    (supply : Supply)
    (text : List Char) : Place :=
  let left := Text.byteLength fault.rest
  let extra :=
    match supply with
    | .memory => fault.ahead
    | .stream => fault.held
  Place.after ⟨1, 0⟩ text
    (Text.byteLength text - left + min extra left)

/-
  A fault in reading a whole text, with the message for the
  place where it was met.
-/
structure Failure where
  cause : Cause
  place : Place
deriving DecidableEq

def Failure.message
    (failure : Failure) : String :=
  failure.cause.message ++
    " at line " ++ toString failure.place.line ++
    " column " ++ toString failure.place.column

end Json

end TextMate
