import TextMate.Formatter.Script.Tool.Regex
import TextMate.Formatter.Script.Tool.Source

/-
  This file defines the command that prints the lines that
  match an expression.

  Key definitions include:
    * `Tool.grep`
-/

namespace TextMate

namespace Script

/- The expression that takes a text as it is. -/
def literalRegex
    (text : String) : Regex :=
  .sequence ((Text.bytes text).map .exactly)

def lowerByte
    (byte : UInt8) : UInt8 :=
  if 65 ≤ byte && byte ≤ 90 then byte + 32 else byte

/-
  The matches in the rest of a line, without empty ones: how
  much is left of the line where one starts, and its length.
-/
def matchesFrom
    (regex : Regex) :
    (fuel : Nat) →
    (atStart : Bool) →
    List UInt8 →
    List (Nat × Nat)
  | 0, _, _ => []
  | fuel + 1, atStart, rest =>
      match regex.findFrom? (Regex.fuelFor rest) atStart rest with
      | none => []
      | some found =>
          let matched := found.place.upTo found.after
          if matched.isEmpty then
            match found.after.rest with
            | [] => []
            | _ :: rest => matchesFrom regex fuel false rest
          else
            (found.place.rest.length, matched.length) ::
              matchesFrom regex fuel false found.after.rest

/- Print the lines that match an expression. -/
def Tool.grep : Tool := fun arguments => do
  let (given, others) := options ['e'] arguments
  let (pattern, paths) :=
    match optionValue? given 'e', others with
    | some pattern, paths => (pattern, paths)
    | none, pattern :: paths => (pattern, paths)
    | none, [] => ("", [])
  let isFolded := hasOption given 'i'
  let pattern := if isFolded then pattern.toLower else pattern
  let regex :=
    if hasOption given 'F' then literalRegex pattern
    else Regex.ofText (hasOption given 'E') pattern
  let (sources, allRead) ←
    readSources blame (sourcePaths paths)
  let folded (line : List UInt8) : List UInt8 :=
    let text := lineText line
    if isFolded then text.map lowerByte else text
  let accepts (line : List UInt8) : Bool :=
    (regex.find? (folded line)).isSome != hasOption given 'v'
  let shown (line : List UInt8) : List (List UInt8) :=
    if hasOption given 'o' then
      let text := lineText line
      let found :=
        matchesFrom regex (line.length + 2) true (folded line)
      found.map fun (left, count) =>
        ended ((text.drop (text.length - left)).take count)
    else [ended line]
  let found := sources.flatMap fun (path, bytes) =>
    ((lines bytes).zipIdx 1).filterMap fun (line, number) =>
      if accepts line then
        let file := if paths.length ≤ 1 then "" else path ++ ":"
        let place :=
          if hasOption given 'n' then toString number ++ ":"
          else ""
        some
          ((shown line).flatMap fun text =>
            Text.bytes (file ++ place) ++ text)
      else none
  if hasOption given 'c' then
    Step.print 1 (toString found.length ++ "\n")
  else if !hasOption given 'q' then Step.write 1 found.flatten
  return if !allRead then 2 else if found.isEmpty then 1 else 0

end Script

end TextMate
