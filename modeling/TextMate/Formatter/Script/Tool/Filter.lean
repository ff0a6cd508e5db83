import TextMate.Formatter.Script.Glob
import TextMate.Formatter.Script.Tool.Source

/-
  This file defines the commands that print what they read,
  or a part of it, or a count.

  Key definitions include:
    * `Tool.cat`
    * `Tool.tee`
    * `Tool.translate`
    * `Amount`
    * `Tool.head`
    * `Tool.tail`
    * `Tool.count`
-/

namespace TextMate

namespace Script

open Text (isDigit)

------------------------------------------------------------
-- Whole Files
------------------------------------------------------------

/- Lines with their numbers in front. -/
def numbered
    (bytes : List UInt8) : List UInt8 :=
  ((lines bytes).zipIdx 1).flatMap fun (line, number) =>
    let text := toString number
    let fill := List.replicate (6 - text.length) ' '
    Text.bytes (String.ofList fill ++ text ++ "\t") ++ line

/- Lines with a sign in front of the mark of their end. -/
def marked
    (bytes : List UInt8) : List UInt8 :=
  (lines bytes).flatMap fun line =>
    lineText line ++
      (if line.contains 10 then [36, 10] else [])

/- Print files one after another. -/
def Tool.cat : Tool := fun arguments =>
  let (given, paths) := options [] arguments
  let marksEnds :=
    hasOption given 'E' || hasOption given 'A' ||
      hasOption given 'e'
  let change (bytes : List UInt8) : List UInt8 :=
    let bytes := if marksEnds then marked bytes else bytes
    if hasOption given 'n' then numbered bytes else bytes
  Tool.filter blame change paths

/- Write to files, from the first to the last. -/
def writeFiles
    (appends : Bool)
    (bytes : List UInt8) : List String → Step Nat
  | [] => return 0
  | path :: rest => do
      match ← Step.openFile path appends with
      | .ok channel =>
          Step.send channel bytes
          writeFiles appends bytes rest
      | .error error =>
          Step.report (blame path error)
          let _ ← writeFiles appends bytes rest
          return 1

/- Print the input, and write it to files. -/
def Tool.tee : Tool := fun arguments => do
  let (given, paths) := options [] arguments
  let input ← Step.readAll
  Step.write 1 input
  writeFiles (hasOption given 'a') input paths

------------------------------------------------------------
-- Sets of Bytes
------------------------------------------------------------

/- The bytes from one to another. -/
def byteSpan
    (first last : UInt8) : List UInt8 :=
  (List.range (last.toNat + 1 - first.toNat)).map fun offset =>
    (first.toNat + offset).toUInt8

def classBytes
    (name : List Char) : List UInt8 :=
  (Glob.classSpans name).flatMap fun span =>
    byteSpan span.first.toNat.toUInt8 span.last.toNat.toUInt8

def setBytes : (fuel : Nat) → List UInt8 → List UInt8
  | 0, _ => []
  | _, [] => []
  | fuel + 1, 91 :: 58 :: rest =>
      let name := rest.takeWhile (· != 58)
      classBytes (name.map fun byte => Char.ofNat byte.toNat) ++
        setBytes fuel (rest.drop (name.length + 2))
  | fuel + 1, first :: 45 :: last :: rest =>
      byteSpan first last ++ setBytes fuel rest
  | fuel + 1, byte :: rest => byte :: setBytes fuel rest

/- The bytes that a set stands for. -/
def byteSet
    (text : String) : List UInt8 :=
  let bytes := unescape false text.toList
  setBytes (bytes.length + 1) bytes

/- The bytes that are not in a set. -/
def otherBytes
    (set : List UInt8) : List UInt8 :=
  (byteSpan 0 255).filter fun byte => !set.contains byte

/- The byte at the same place of another set, or its last. -/
def translateByte
    (source target : List UInt8)
    (byte : UInt8) : UInt8 :=
  match source.idxOf? byte with
  | some place =>
      (target[place]?).getD (target.getLast?.getD byte)
  | none => byte

/- Leave one of equal bytes in a row, for those in a set. -/
def squeeze
    (set : List UInt8) : List UInt8 → List UInt8
  | first :: second :: rest =>
      if first = second && set.contains first then
        squeeze set (second :: rest)
      else first :: squeeze set (second :: rest)
  | bytes => bytes

/- Translate, delete or squeeze bytes of the input. -/
def Tool.translate : Tool := fun arguments => do
  let isOption (argument : String) : Bool :=
    argument.toList.head? == some '-' && argument.length > 1
  let (given, rest) := options [] (arguments.takeWhile isOption)
  let sets := rest ++ arguments.dropWhile isOption
  if let some operand := sets[2]? then
    Step.report ("extra operand '" ++ operand ++ "'")
    Step.print 2
      ("Try '" ++ (← get).scope ++
        " --help' for more information.\n")
    return 1
  let isOther := hasOption given 'c' || hasOption given 'C'
  let isShort := hasOption given 's'
  let source := byteSet (sets.head?.getD "")
  let source := if isOther then otherBytes source else source
  let target? := (sets[1]?).map byteSet
  let input ← Step.readAll
  let changed :=
    if hasOption given 'd' then
      input.filter fun byte => !source.contains byte
    else
      match target? with
      | some target => input.map (translateByte source target)
      | none => input
  Step.write 1
    (if isShort then squeeze (target?.getD source) changed
    else changed)
  return 0

------------------------------------------------------------
-- Parts of Files
------------------------------------------------------------

/- How much is taken: lines or bytes, and from which end. -/
structure Amount where
  ofBytes : Bool
  sign : Option Char
  count : Nat

/- An amount as it is written after an option. -/
def Amount.ofText
    (ofBytes : Bool)
    (text : String) : Amount :=
  match text.toList with
  | '-' :: digits =>
      ⟨ofBytes, some '-',
        ((String.ofList digits).toNat?).getD 0⟩
  | '+' :: digits =>
      ⟨ofBytes, some '+',
        ((String.ofList digits).toNat?).getD 0⟩
  | _ => ⟨ofBytes, none, (text.toNat?).getD 0⟩

/- The amount that arguments ask for, and the other ones. -/
def Amount.ofArguments
    (arguments : List String) : Amount × List String :=
  match arguments with
  | argument :: rest =>
      match argument.toList with
      | '-' :: digit :: digits =>
          if isDigit digit then
            (.ofText false (String.ofList (digit :: digits)),
              rest)
          else
            let (given, paths) := options ['n', 'c'] arguments
            match optionValue? given 'c',
                optionValue? given 'n' with
            | some text, _ => (.ofText true text, paths)
            | none, some text => (.ofText false text, paths)
            | none, none => (⟨false, none, 10⟩, paths)
      | _ => (⟨false, none, 10⟩, arguments)
  | [] => (⟨false, none, 10⟩, [])

/- The parts that bytes are counted in. -/
def Amount.split
    (amount : Amount)
    (bytes : List UInt8) : List (List UInt8) :=
  if amount.ofBytes then bytes.map fun byte => [byte]
  else lines bytes

/- The start of bytes. -/
def Amount.start
    (amount : Amount)
    (bytes : List UInt8) : List UInt8 :=
  let parts := amount.split bytes
  (if amount.sign = some '-' then
    parts.take (parts.length - amount.count)
  else parts.take amount.count).flatten

/- The end of bytes. -/
def Amount.rest
    (amount : Amount)
    (bytes : List UInt8) : List UInt8 :=
  let parts := amount.split bytes
  (if amount.sign = some '+' then parts.drop (amount.count - 1)
  else parts.drop (parts.length - amount.count)).flatten

/- Print the start of what is read. -/
def Tool.head : Tool := fun arguments =>
  let (amount, paths) := Amount.ofArguments arguments
  Tool.filter blameOpen amount.start paths

/- Print the end of what is read. -/
def Tool.tail : Tool := fun arguments =>
  let (amount, paths) := Amount.ofArguments arguments
  Tool.filter blameOpen amount.rest paths

------------------------------------------------------------
-- Counts
------------------------------------------------------------

def isBlankByte
    (byte : UInt8) : Bool :=
  byte == 32 || (9 ≤ byte && byte ≤ 13)

def wordCount
    (inWord : Bool) : List UInt8 → Nat
  | [] => 0
  | byte :: rest =>
      if isBlankByte byte then wordCount false rest
      else (if inWord then 0 else 1) + wordCount true rest

def counts
    (given : List (Char × String))
    (bytes : List UInt8) : List Nat :=
  let isAsked (letter : Char) : Bool :=
    given.isEmpty || hasOption given letter
  (if isAsked 'l' then [bytes.count 10] else []) ++
    (if isAsked 'w' then [wordCount false bytes] else []) ++
    (if isAsked 'c' || hasOption given 'm' then [bytes.length]
    else [])

/- Numbers in columns, which are wide for the input. -/
def columns
    (width : Nat)
    (numbers : List Nat) : String :=
  String.intercalate " " <| numbers.map fun number =>
    let text := toString number
    String.ofList (List.replicate (width - text.length) ' ') ++
      text

/- Count lines, words and bytes of what is read. -/
def Tool.count : Tool := fun arguments => do
  let (given, paths) := options [] arguments
  let (sources, allRead) ←
    readSources blame (sourcePaths paths)
  for (path, bytes) in sources do
    let found := counts given bytes
    let width :=
      if found.length ≤ 1 then 1
      else if path = "-" then 7
      else (toString bytes.length).length
    let name := if paths.isEmpty then "" else " " ++ path
    Step.print 1 (columns width found ++ name ++ "\n")
  return if allRead then 0 else 1

end Script

end TextMate
