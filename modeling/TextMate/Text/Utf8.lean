/-
  This file defines the bytes of a text and what bytes decode
  to, with a mark for each part that is no character.

  A part that starts like a character and then breaks off is
  one mistake, and each other byte that fits nowhere is one.

  Key definitions include:
    * `bytes`
    * `decodeStep`
    * `decode`
    * `decode?`
    * `decodeLossy`
-/

namespace TextMate

namespace Text

def bytes
    (text : String) : List UInt8 :=
  text.toList.flatMap String.utf8EncodeChar

/-
  A character of which some bytes were read: the number of
  bytes that are missing, the bounds for the next one, and the
  bits so far.
-/
structure Partial where
  missing : Nat
  low : Nat
  high : Nat
  bits : Nat

/- Characters and mistakes, and a character that is begun. -/
abbrev Decoded := List (Option Char) × Option Partial

/- Begin a character that has more bytes. -/
def beginChar
    (missing : Nat)
    (low : Nat)
    (high : Nat)
    (bits : Nat) : Decoded :=
  ([], some ⟨missing, low, high, bits⟩)

/- Decode the first byte of a character. -/
def decodeFirst
    (byte : Nat) : Decoded :=
  if byte < 0x80 then ([some (Char.ofNat byte)], none)
  else if byte < 0xc2 then ([none], none)
  else if byte < 0xe0 then
    beginChar 1 0x80 0xbf (byte - 0xc0)
  else if byte = 0xe0 then beginChar 2 0xa0 0xbf 0
  else if byte = 0xed then beginChar 2 0x80 0x9f 0xd
  else if byte < 0xf0 then
    beginChar 2 0x80 0xbf (byte - 0xe0)
  else if byte = 0xf0 then beginChar 3 0x90 0xbf 0
  else if byte < 0xf4 then
    beginChar 3 0x80 0xbf (byte - 0xf0)
  else if byte = 0xf4 then beginChar 3 0x80 0x8f 4
  else ([none], none)

/- Decode a byte. -/
def decodeStep
    (state : Option Partial)
    (byte : Nat) : Decoded :=
  match state with
  | none => decodeFirst byte
  | some part =>
      if part.low ≤ byte && byte ≤ part.high then
        let bits := part.bits * 64 + byte % 64
        if part.missing ≤ 1 then
          ([some (Char.ofNat bits)], none)
        else beginChar (part.missing - 1) 0x80 0xbf bits
      else
        let (found, state) := decodeFirst byte
        (none :: found, state)

/- Decode bytes behind those of a character that is begun. -/
def decodeFrom
    (state : Option Partial) :
    List UInt8 → List (Option Char)
  | [] => if state.isSome then [none] else []
  | byte :: rest =>
      let (found, state) := decodeStep state byte.toNat
      found ++ decodeFrom state rest

/- The characters of bytes, with a gap for each mistake. -/
def decode
    (bytes : List UInt8) : List (Option Char) :=
  decodeFrom none bytes

/- The text of bytes without a mistake. -/
def decode?
    (bytes : List UInt8) : Option String :=
  ((decode bytes).mapM id).map String.ofList

/- The text of bytes, with a sign for each mistake. -/
def decodeLossy
    (bytes : List UInt8) : String :=
  String.ofList
    ((decode bytes).map fun c => c.getD '\ufffd')

end Text

end TextMate
