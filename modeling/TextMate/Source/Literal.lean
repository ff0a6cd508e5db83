import TextMate.Text.Quoted

/-
  This file defines raw string literals of generated source: a
  text between fences of hashes that do not occur in it.

  Key definitions include:
    * `hashRun`
    * `countHashes`
    * `fenceLength`
    * `rawLiteral`
    * `literalChars`
    * `literal`
-/

namespace TextMate

namespace Source

/-
  The length of the run of hashes up to a character, if the run
  starts behind a quote.
-/
def hashRun
    (run : Option Nat)
    (c : Char) : Option Nat :=
  if c = '"' then some 0
  else if c = '#' then run.map (· + 1)
  else none

/-
  The number of hashes that a fence needs: one more than the
  longest run behind a quote.  It starts from the run that was
  just read and from the hashes needed so far.
-/
def countHashes
    (run : Option Nat)
    (hashes : Nat) : List Char → Nat
  | [] => hashes
  | c :: rest =>
      match hashRun run c with
      | some length =>
          countHashes (some length)
            (max hashes (length + 1)) rest
      | none => countHashes none hashes rest

/-
  The number of hashes for the fence of a text: none if the text
  has no quotes.
-/
def fenceLength
    (text : List Char) : Nat :=
  countHashes none 0 text

/- A text between fences. -/
def rawLiteral
    (text : List Char) : List Char :=
  let fence := List.replicate (fenceLength text) '#'
  'r' :: (fence ++ '"' :: (text ++ '"' :: fence))

/-
  The written form of a literal for a text.  It is raw unless
  the text has a carriage return, which no raw literal holds.
-/
def literalChars
    (text : List Char) : List Char :=
  if text.contains '\r' then Text.quoted text
  else rawLiteral text

/- A literal for a text. -/
def literal
    (text : String) : String :=
  String.ofList (literalChars text.toList)

end Source

end TextMate
