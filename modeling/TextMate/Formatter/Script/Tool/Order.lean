import TextMate.Formatter.Script.Tool.Filter

/-
  This file defines the commands that print lines in another
  order, or columns of lines, or numbers in a row.

  Key definitions include:
    * `Tool.sort`
    * `Tool.distinct`
    * `Tool.cut`
    * `Tool.sequence`
    * `Tool.fold`
    * `Tool.number`
    * `Tool.ofFilter?`
-/

namespace TextMate

namespace Script

open Text (isDigit)

------------------------------------------------------------
-- Order
------------------------------------------------------------

/- Bytes come before others, or are equal to them. -/
def bytesBefore : List UInt8 → List UInt8 → Bool
  | [], _ => true
  | _ :: _, [] => false
  | a :: as, b :: bs => a < b || (a == b && bytesBefore as bs)

def lineNumber
    (line : List UInt8) : Int :=
  let text := line.dropWhile isBlankByte
  let isNegative := text.head? = some 45
  let digits :=
    (if isNegative then text.drop 1 else text).takeWhile
      fun byte => 48 ≤ byte && byte ≤ 57
  let value : Int :=
    digits.foldl (fun value byte => value * 10 + byte.toNat - 48) 0
  if isNegative then -value else value

/- Leave one of equal lines in a row, with their number. -/
def distinct
    (found : List (List UInt8)) : List (List UInt8 × Nat) :=
  found.foldr
    (fun line distinct =>
      match distinct with
      | (other, count) :: rest =>
          if line = other then (line, count + 1) :: rest
          else (line, 1) :: distinct
      | [] => [(line, 1)])
    []

/- Print the lines that are read in order. -/
def Tool.sort : Tool := fun arguments =>
  let (given, paths) := options [] arguments
  let isBefore (a b : List UInt8) : Bool :=
    if hasOption given 'n' then
      lineNumber a < lineNumber b ||
        (lineNumber a == lineNumber b && bytesBefore a b)
    else bytesBefore a b
  let change (bytes : List UInt8) : List UInt8 :=
    let sorted := ((lines bytes).map lineText).mergeSort isBefore
    let sorted :=
      if hasOption given 'r' then sorted.reverse else sorted
    let sorted :=
      if hasOption given 'u' then (distinct sorted).map Prod.fst
      else sorted
    sorted.flatMap ended
  Tool.filter blame change paths

/- Print one of equal lines in a row. -/
def Tool.distinct : Tool := fun arguments =>
  let (given, paths) := options [] arguments
  let change (bytes : List UInt8) : List UInt8 :=
    (Script.distinct ((lines bytes).map lineText)).flatMap
      fun (line, count) =>
        let start := columns 7 [count] ++ " "
        (if hasOption given 'c' then Text.bytes start else []) ++
          ended line
  Tool.filter blame change paths

/- The characters of each line in opposite order. -/
def mirror
    (bytes : List UInt8) : List UInt8 :=
  (lines bytes).flatMap fun line =>
    let text := (Text.decodeLossy (lineText line)).toList
    Text.bytes (String.ofList text.reverse) ++
      line.drop (lineText line).length

/- The lines in opposite order. -/
def upsideDown
    (bytes : List UInt8) : List UInt8 :=
  (lines bytes).reverse.flatten

------------------------------------------------------------
-- Columns
------------------------------------------------------------

/- The places that a list names are from one to another. -/
def placeSpan
    (text : List Char) : Nat × Option Nat :=
  let number? (digits : List Char) : Option Nat :=
    (String.ofList digits).toNat?
  let first := text.takeWhile isDigit
  match text.drop first.length with
  | [] => ((number? first).getD 1, number? first)
  | rest => ((number? first).getD 1, number? (rest.drop 1))

def namesPlace
    (list : String)
    (place : Nat) : Bool :=
  (list.splitOn ",").any fun text =>
    let (first, last) := placeSpan text.toList
    first ≤ place && last.all (place ≤ ·)

def atPlaces
    {α : Type}
    (list : String)
    (parts : List α) : List α :=
  ((parts.zipIdx 1).filter fun (_, place) =>
    namesPlace list place).map Prod.fst

/- The parts of a line between marks. -/
def cutAt
    (mark : UInt8) : List UInt8 → List (List UInt8)
  | [] => [[]]
  | byte :: rest =>
      if byte = mark then [] :: cutAt mark rest
      else
        match cutAt mark rest with
        | [] => [[byte]]
        | part :: more => (byte :: part) :: more

/- Print parts of each line. -/
def Tool.cut : Tool := fun arguments =>
  let (given, paths) := options ['c', 'b', 'd', 'f'] arguments
  let mark :=
    ((optionValue? given 'd').bind fun text =>
      (Text.bytes text).head?).getD 9
  let change (line : List UInt8) : List UInt8 :=
    match optionValue? given 'f' with
    | some list =>
        if line.contains mark then
          ((atPlaces list (cutAt mark line)).intersperse
            [mark]).flatten
        else line
    | none =>
        let list :=
          (optionValue? given 'c' <|>
            optionValue? given 'b').getD ""
        atPlaces list line
  Tool.filter blame
    (fun bytes => (lines bytes).flatMap fun line =>
      ended (change (lineText line)))
    paths

/- The numbers from one to another in equal steps. -/
def numbersBetween
    (first step last : Int) : List Int :=
  let count :=
    if step = 0 then 0
    else ((last - first).fdiv step + 1).toNat
  (List.range count).map fun number =>
    first + step * Int.ofNat number

/- Print numbers from one to another. -/
def Tool.sequence : Tool := fun arguments => do
  let number (text : String) : Int := (text.toInt?).getD 0
  let numbers :=
    match arguments.map number with
    | [last] => numbersBetween 1 1 last
    | [first, last] => numbersBetween first 1 last
    | first :: step :: last :: _ =>
        numbersBetween first step last
    | [] => []
  Step.print 1
    (String.join (numbers.map fun n => toString n ++ "\n"))
  return 0

------------------------------------------------------------
-- Widths
------------------------------------------------------------

/- A line with ends of lines after a number of bytes. -/
def foldLine
    (width : Nat) :
    (left : Nat) → List UInt8 → List UInt8
  | _, [] => []
  | left, byte :: rest =>
      if byte = 10 then [10]
      else if left = 0 then
        10 :: byte :: foldLine width (width - 1) rest
      else byte :: foldLine width (left - 1) rest

/- Lines that are cut after a number of bytes. -/
def folded
    (width : Nat)
    (bytes : List UInt8) : List UInt8 :=
  (lines bytes).flatMap (foldLine width width)

/- Print lines that are cut where they are too long. -/
def Tool.fold : Tool := fun arguments =>
  let (given, paths) := options ['w'] arguments
  let width :=
    ((optionValue? given 'w').bind String.toNat?).getD 80
  Tool.filter blame (folded width) paths

/- Bytes with blanks for tabs, up to columns of a width. -/
def expanded
    (width : Nat) :
    (column : Nat) → List UInt8 → List UInt8
  | _, [] => []
  | column, byte :: rest =>
      if byte = 9 then
        let count := width - column % width
        List.replicate count 32 ++
          expanded width (column + count) rest
      else
        byte ::
          expanded width (if byte = 10 then 0 else column + 1)
            rest

/- Print what is read with blanks for tabs. -/
def Tool.expand : Tool := fun arguments =>
  let (given, paths) := options ['t'] arguments
  let width :=
    ((optionValue? given 't').bind String.toNat?).getD 8
  Tool.filter blame (expanded width 0) paths

/- Lines with numbers in front of those that are not empty. -/
def withNumbers
    (number : Nat) : List (List UInt8) → List UInt8
  | [] => []
  | line :: rest =>
      if (lineText line).isEmpty then
        Text.bytes "       " ++ line ++ withNumbers number rest
      else
        Text.bytes (columns 6 [number] ++ "\t") ++ line ++
          withNumbers (number + 1) rest

/- Print lines with their numbers. -/
def Tool.number : Tool := fun arguments =>
  Tool.filter blame
    (fun bytes => withNumbers 1 (lines bytes))
    (options [] arguments).2

/- The command of a name that prints what it reads. -/
def Tool.ofFilter? : String → Option Tool
  | "cat" => some Tool.cat
  | "tee" => some Tool.tee
  | "tr" => some Tool.translate
  | "head" => some Tool.head
  | "tail" => some Tool.tail
  | "wc" => some Tool.count
  | "sort" => some Tool.sort
  | "uniq" => some Tool.distinct
  | "rev" => some (Tool.filter blameOpen mirror)
  | "tac" => some (Tool.filter blameOpen upsideDown)
  | "cut" => some Tool.cut
  | "seq" => some Tool.sequence
  | "fold" => some Tool.fold
  | "expand" => some Tool.expand
  | "nl" => some Tool.number
  | _ => none

end Script

end TextMate
