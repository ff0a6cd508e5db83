import TextMate.Formatter.Script.Glob
import TextMate.Text.Utf8

/-
  This file defines the regular expressions that commands
  search lines with.  They match bytes, and of all matches at
  a place the longest one counts.

  Key definitions include:
    * `Regex`
    * `Regex.Sign`
    * `Regex.ofText`
    * `Regex.ways`
    * `Regex.find?`
-/

namespace TextMate

namespace Script

------------------------------------------------------------
-- Expressions
------------------------------------------------------------

/-
  A regular expression.  A group has a number, and `same`
  matches what a group matched.
-/
inductive Regex where
  | exactly (value : UInt8)
  | any
  | oneOf (isNegated : Bool) (values : List UInt8)
  | start
  | finish
  | group (number : Nat) (body : Regex)
  | same (number : Nat)
  | repeated (low : Nat) (high : Option Nat) (body : Regex)
  | sequence (items : List Regex)
  | choice (branches : List Regex)

namespace Regex

instance : Inhabited Regex := ⟨.sequence []⟩

inductive Sign where
  | item (item : Regex)
  | opening
  | closing
  | bar
  | times (low : Nat) (high : Option Nat)

------------------------------------------------------------
-- Signs
------------------------------------------------------------

def classValues
    (mark : Glob.Mark) : Bool × List UInt8 :=
  match mark with
  | .oneOf isNegated spans =>
      (isNegated,
        (List.range 256).filterMap fun value =>
          if spans.any fun span =>
              span.first.toNat ≤ value &&
                value ≤ span.last.toNat
          then some value.toUInt8
          else none)
  | _ => (false, [])

/- Bytes as characters of the same numbers. -/
def asChars
    (bytes : List UInt8) : List Char :=
  bytes.map fun byte => Char.ofNat byte.toNat

/- Read a class after its opening bracket. -/
def takeClass?
    (text : List Char) : Option (Regex × List Char) :=
  (Glob.readClass? text).map fun (mark, rest) =>
    let (isNegated, values) := classValues mark
    (.oneOf isNegated values, rest)

def wordValues : List UInt8 :=
  (classValues (.oneOf false
    (⟨'_', '_'⟩ :: Glob.classSpans "alnum".toList))).2

/- The bytes of blanks. -/
def spaceValues : List UInt8 :=
  (classValues (.oneOf false
    (Glob.classSpans "space".toList))).2

/- The number of times between braces, and what follows. -/
def takeTimes?
    (close : List Char)
    (text : List Char) :
    Option ((Nat × Option Nat) × List Char) :=
  let digits (text : List Char) : List Char :=
    text.takeWhile Text.isDigit
  let number? (text : List Char) : Option Nat :=
    (String.ofList (digits text)).toNat?
  let low := (number? text).getD 0
  let rest := text.drop (digits text).length
  if close.isPrefixOf rest then
    some ((low, some low), rest.drop close.length)
  else
    match rest with
    | ',' :: rest =>
        let after := rest.drop (digits rest).length
        if close.isPrefixOf after then
          some ((low, number? rest), after.drop close.length)
        else none
    | _ => none

/- The sign for a character after a backslash. -/
def escapedSign
    (isExtended : Bool)
    (c : Char) : Sign :=
  match c with
  | '(' => if isExtended then literal c else .opening
  | ')' => if isExtended then literal c else .closing
  | '|' => if isExtended then literal c else .bar
  | '+' => if isExtended then literal c else .times 1 none
  | '?' => if isExtended then literal c else .times 0 (some 1)
  | 'n' => .item (.exactly 10)
  | 't' => .item (.exactly 9)
  | 'w' => .item (.oneOf false wordValues)
  | 'W' => .item (.oneOf true wordValues)
  | 's' => .item (.oneOf false spaceValues)
  | 'S' => .item (.oneOf true spaceValues)
  | c =>
      if Text.isDigit c && c ≠ '0' then
        .item (.same (c.toNat - '0'.toNat))
      else literal c
where
  literal (c : Char) : Sign :=
    .item (.exactly c.toNat.toUInt8)

/- The sign for a character that stands for itself. -/
def literalSign
    (c : Char) : Sign :=
  .item (.exactly c.toNat.toUInt8)

/- Nothing comes before the place in its branch. -/
def Sign.startsBranch : Sign → Bool
  | .opening | .bar => true
  | _ => false

/- Nothing comes after the place in its branch. -/
def endsBranch
    (isExtended : Bool)
    (text : List Char) : Bool :=
  match text with
  | [] => true
  | '\\' :: ')' :: _ | '\\' :: '|' :: _ => !isExtended
  | ')' :: _ | '|' :: _ => isExtended
  | _ => false

/-
  The signs of an expression.  `atStart` says that nothing
  comes before in the branch.
-/
def signs
    (isExtended : Bool) :
    (fuel : Nat) → (atStart : Bool) → List Char → List Sign
  | 0, _, _ => []
  | _, _, [] => []
  | fuel + 1, atStart, c :: rest =>
      let go (sign : Sign) (rest : List Char) : List Sign :=
        sign :: signs isExtended fuel sign.startsBranch rest
      match c with
      | '\\' =>
          match rest with
          | [] => [literalSign '\\']
          | '{' :: rest =>
              match takeTimes? ['\\', '}'] rest, isExtended with
              | some ((low, high), rest), false =>
                  go (.times low high) rest
              | _, _ => go (literalSign '{') rest
          | c :: rest => go (escapedSign isExtended c) rest
      | '[' =>
          match takeClass? rest with
          | some (item, rest) => go (.item item) rest
          | none => go (literalSign c) rest
      | '.' => go (.item .any) rest
      | '*' =>
          if atStart then go (literalSign c) rest
          else go (.times 0 none) rest
      | '^' =>
          if atStart || isExtended then
            .item .start :: signs isExtended fuel true rest
          else go (literalSign c) rest
      | '$' =>
          if isExtended || endsBranch isExtended rest then
            go (.item .finish) rest
          else go (literalSign c) rest
      | c =>
          if !isExtended then go (literalSign c) rest
          else
            match c with
            | '(' => go .opening rest
            | ')' => go .closing rest
            | '|' => go .bar rest
            | '+' => go (.times 1 none) rest
            | '?' => go (.times 0 (some 1)) rest
            | '{' =>
                match takeTimes? ['}'] rest with
                | some ((low, high), rest) =>
                    go (.times low high) rest
                | none => go (literalSign c) rest
            | c => go (literalSign c) rest

------------------------------------------------------------
-- Reading
------------------------------------------------------------

/- Signs that are left, and the number of groups so far. -/
structure Reading where
  rest : List Sign
  groups : Nat

def takeRepeats
    (item : Regex) : List Sign → Regex × List Sign
  | .times low high :: rest =>
      takeRepeats (.repeated low high item) rest
  | rest => (item, rest)

/- Read an expression. -/
mutual

/- Read branches up to a closing sign. -/
def readChoice :
    (fuel : Nat) → Reading → Regex × Reading
  | 0, reading => (.sequence [], reading)
  | fuel + 1, reading =>
      let (items, reading) := readItems fuel reading
      match reading.rest with
      | .bar :: rest =>
          let (others, reading) :=
            readChoice fuel { reading with rest := rest }
          (.choice [.sequence items, others], reading)
      | _ => (.sequence items, reading)
termination_by structural fuel => fuel

def readItems :
    (fuel : Nat) → Reading → List Regex × Reading
  | 0, reading => ([], reading)
  | fuel + 1, reading =>
      let further
          (item : Regex)
          (reading : Reading) : List Regex × Reading :=
        let (item, rest) := takeRepeats item reading.rest
        let (items, reading) :=
          readItems fuel { reading with rest := rest }
        (item :: items, reading)
      match reading.rest with
      | .item item :: rest =>
          further item { reading with rest := rest }
      | .opening :: rest =>
          let number := reading.groups + 1
          let (body, reading) := readChoice fuel ⟨rest, number⟩
          further (.group number body)
            { reading with rest := reading.rest.drop 1 }
      | .times _ _ :: rest =>
          readItems fuel { reading with rest := rest }
      | _ => ([], reading)
termination_by structural fuel => fuel

end

/- The expression that a text stands for. -/
def ofText
    (isExtended : Bool)
    (text : String) : Regex :=
  let chars := asChars (Text.bytes text)
  let signs := signs isExtended (chars.length + 1) true chars
  (readChoice (2 * signs.length + 4) ⟨signs, 0⟩).1

------------------------------------------------------------
-- Matching
------------------------------------------------------------

/- A place in a line, and what groups matched so far. -/
structure Place where
  atStart : Bool
  rest : List UInt8
  groups : List (Nat × List UInt8)

/- The place after a number of bytes. -/
def Place.advance
    (place : Place)
    (count : Nat) : Place :=
  if count = 0 then place
  else
    { place with
      atStart := false
      rest := place.rest.drop count }

/- What was matched between two places. -/
def Place.upTo
    (place after : Place) : List UInt8 :=
  place.rest.take (place.rest.length - after.rest.length)

/- The places after a byte that satisfies a condition. -/
def Place.afterByte
    (place : Place)
    (holds : UInt8 → Bool) : List Place :=
  match place.rest with
  | byte :: _ => if holds byte then [place.advance 1] else []
  | [] => []

/-
  The places after matches of an expression, the preferred
  ones first.
-/
mutual

def ways :
    (fuel : Nat) → Regex → Place → List Place
  | 0, _, _ => []
  | fuel + 1, regex, place =>
      match regex with
      | .exactly value => place.afterByte (· == value)
      | .any => place.afterByte fun _ => true
      | .oneOf isNegated values =>
          place.afterByte fun byte =>
            values.contains byte != isNegated
      | .start => if place.atStart then [place] else []
      | .finish => if place.rest.isEmpty then [place] else []
      | .group number body =>
          (ways fuel body place).map fun after =>
            { after with
              groups :=
                (number, place.upTo after) :: after.groups }
      | .same number =>
          let text :=
            (List.lookup number place.groups).getD []
          if text.isPrefixOf place.rest then
            [place.advance text.length]
          else []
      | .repeated low high body =>
          repeats fuel low high body place
      | .sequence items => rowWays fuel items place
      | .choice branches =>
          branches.flatMap fun branch => ways fuel branch place
termination_by structural fuel => fuel

/- The places after matches of expressions in a row. -/
def rowWays :
    (fuel : Nat) → List Regex → Place → List Place
  | 0, _, _ => []
  | _, [], place => [place]
  | fuel + 1, item :: items, place =>
      (ways fuel item place).flatMap (rowWays fuel items)
termination_by structural fuel => fuel

/- The places after repeated matches, the longest row first. -/
def repeats :
    (fuel : Nat) →
    Nat →
    Option Nat →
    Regex →
    Place →
    List Place
  | 0, _, _, _, _ => []
  | fuel + 1, low, high, body, place =>
      let enough := if low = 0 then [place] else []
      if high = some 0 then enough
      else
        let further :=
          (ways fuel body place).filter fun after =>
            after.rest.length < place.rest.length || 0 < low
        further.flatMap
            (repeats fuel (low - 1) (high.map (· - 1)) body) ++
          enough
termination_by structural fuel => fuel

end

/- The first of the places that are furthest on. -/
def furthest? : List Place → Option Place
  | [] => none
  | place :: rest =>
      match furthest? rest with
      | none => some place
      | some other =>
          if other.rest.length < place.rest.length then
            some other
          else some place

/- The bytes before a match, and the places around it. -/
structure Found where
  before : List UInt8
  place : Place
  after : Place

/- Find the first match in a line. -/
def findFrom?
    (regex : Regex)
    (fuel : Nat) :
    (atStart : Bool) → List UInt8 → Option Found
  | atStart, rest =>
      let place : Place := ⟨atStart, rest, []⟩
      match furthest? (ways fuel regex place), rest with
      | some after, _ => some ⟨[], place, after⟩
      | none, [] => none
      | none, byte :: rest =>
          (findFrom? regex fuel false rest).map fun found =>
            { found with before := byte :: found.before }
termination_by structural _ rest => rest

/- The fuel for the matches in a line. -/
def fuelFor
    (line : List UInt8) : Nat :=
  8 * line.length + 1000

/- Find the first match in a line. -/
def find?
    (regex : Regex)
    (line : List UInt8) : Option Found :=
  findFrom? regex (fuelFor line) true line

end Regex

end Script

end TextMate
