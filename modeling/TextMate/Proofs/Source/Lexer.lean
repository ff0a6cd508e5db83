import TextMate.Text.Word

/-
  This file defines how source is read as lexemes: words,
  signs, numbers and texts.

  A text is read character by character, and a state keeps
  what was read of the lexeme so far.  A sign that is written
  with several characters is read as several signs.

  Only decimal numbers are read, and only texts that have no
  prefix but that of a raw text.

  Main declarations:
    * `Lexeme`
    * `Scan`
    * `Scan.step`
    * `Scan.finish`
    * `scan`
    * `lex`
-/

namespace TextMate

namespace Source

open Text (isDigit isLower isUpper digitValue hexValue?)

------------------------------------------------------------
-- Lexemes
------------------------------------------------------------

/- A lexeme of source.  A text is without its escapes. -/
inductive Lexeme where
  | word (text : String)
  | sign (c : Char)
  | number (value : Nat)
  | text (value : String)
deriving DecidableEq

/- The characters between lexemes. -/
def spaces : List Char :=
  [' ', '\n', '\t', '\r', '\x0b', '\x0c', '\u0085', '\u200e',
    '\u200f', '\u2028', '\u2029']

/- The character stands between lexemes. -/
def isSpace
    (c : Char) : Bool :=
  spaces.contains c

/- A word can start with the character. -/
def startsWord
    (c : Char) : Bool :=
  isLower c || isUpper c || c == '_'

/- A word can go on with the character. -/
def continuesWord
    (c : Char) : Bool :=
  startsWord c || isDigit c

/- The characters that are signs. -/
def signChars : List Char :=
  ['(', ')', '[', ']', '\x7b', '\x7d', '<', '>', ',', ';', ':',
    '.', '?', '!', '-']

/- The character is a sign. -/
def isSign
    (c : Char) : Bool :=
  signChars.contains c

------------------------------------------------------------
-- States
------------------------------------------------------------

/- What was read of a lexeme, with the text that it holds. -/
inductive Scan where
  -- Between lexemes, and behind the end of a text.
  | space
  | behindText
  | word (text : List Char)
  | number (value : Nat)
  -- In a text, behind a backslash, or behind an escaped end of
  -- line, where blanks are skipped.
  | quoted (text : List Char)
  | escape (text : List Char)
  | joined (text : List Char)
  -- In a code point of two digits, or of up to six in braces.
  | byte (text : List Char) (high : Option Nat)
  | braced (text : List Char)
  | codePoint (text : List Char) (value : Nat) (length : Nat)
  -- In the opening fence of a raw text, in the text, or in
  -- what may be its closing fence.
  | fence (hashes : Nat)
  | raw (hashes : Nat) (text : List Char)
  | closing (hashes : Nat) (seen : Nat) (text : List Char)
deriving DecidableEq

/- The lexemes that a step ends, and the state behind it. -/
abbrev Stepped := Option (List Lexeme × Scan)

namespace Scan

/- A lexeme starts with the character, or none. -/
def start
    (c : Char) : Stepped :=
  if isSpace c then some ([], .space)
  else if c = '"' then some ([], .quoted [])
  else if startsWord c then some ([], .word [c])
  else if isDigit c then some ([], .number (digitValue c))
  else if isSign c then some ([.sign c], .space)
  else none

/- A lexeme ends in front of the character. -/
def endBefore
    (c : Char)
    (lexeme : Lexeme) : Stepped :=
  (start c).map fun (lexemes, state) =>
    (lexeme :: lexemes, state)

/- The word `r` is the start of a raw text, and no other is. -/
def afterWord
    (text : List Char)
    (c : Char) : Stepped :=
  if continuesWord c then some ([], .word (text ++ [c]))
  else if c = '"' then
    if text = ['r'] then some ([], .raw 0 []) else none
  else if c = '#' then
    if text = ['r'] then some ([], .fence 1) else none
  else endBefore c (.word (String.ofList text))

/- No word follows a number. -/
def afterDigit
    (value : Nat)
    (c : Char) : Stepped :=
  if isDigit c then
    some ([], .number (10 * value + digitValue c))
  else if startsWord c then none
  else endBefore c (.number value)

/- A text ends at a quote, and has no bare carriage return. -/
def inQuoted
    (text : List Char)
    (c : Char) : Stepped :=
  if c = '"' then
    some ([.text (String.ofList text)], .behindText)
  else if c = '\\' then some ([], .escape text)
  else if c = '\r' then none
  else some ([], .quoted (text ++ [c]))

/- The character for the letter behind a backslash. -/
def simpleEscape? : Char → Option Char
  | 'n' => some '\n'
  | 'r' => some '\r'
  | 't' => some '\t'
  | '0' => some '\x00'
  | '\\' => some '\\'
  | '"' => some '"'
  | '\'' => some '\''
  | _ => none

/- An escape is a letter, a code point or an end of line. -/
def inEscape
    (text : List Char)
    (c : Char) : Stepped :=
  match simpleEscape? c with
  | some escaped => some ([], .quoted (text ++ [escaped]))
  | none =>
      if c = 'x' then some ([], .byte text none)
      else if c = 'u' then some ([], .braced text)
      else if c = '\n' then some ([], .joined text)
      else none

/- A code point of two digits is one of ASCII. -/
def inByte
    (text : List Char)
    (high : Option Nat)
    (c : Char) : Stepped :=
  match hexValue? c, high with
  | some value, none =>
      if value < 8 then some ([], .byte text (some value))
      else none
  | some value, some high =>
      some ([], .quoted (text ++ [Char.ofNat (16 * high + value)]))
  | none, _ => none

/- A code point in braces has at most six digits. -/
def inCodePoint
    (text : List Char)
    (value : Nat)
    (length : Nat)
    (c : Char) : Stepped :=
  if c = '\x7d' then
    if 0 < length ∧ value.isValidChar then
      some ([], .quoted (text ++ [Char.ofNat value]))
    else none
  else if c = '_' ∧ 0 < length then
    some ([], .codePoint text value length)
  else
    match hexValue? c with
    | some digit =>
        if length < 6 then
          some ([],
            .codePoint text (16 * value + digit) (length + 1))
        else none
    | none => none

/- A raw text may end at a quote, and has no escapes. -/
def inRaw
    (hashes : Nat)
    (text : List Char)
    (c : Char) : Stepped :=
  if c = '"' then
    if hashes = 0 then
      some ([.text (String.ofList text)], .behindText)
    else some ([], .closing hashes 0 text)
  else if c = '\r' then none
  else some ([], .raw hashes (text ++ [c]))

/-
  A raw text ends at a quote with as many hashes as it started
  with.  A quote with fewer is a part of it.
-/
def inClosing
    (hashes : Nat)
    (seen : Nat)
    (text : List Char)
    (c : Char) : Stepped :=
  if c = '#' then
    if seen + 1 = hashes then
      some ([.text (String.ofList text)], .behindText)
    else some ([], .closing hashes (seen + 1) text)
  else
    inRaw hashes (text ++ '"' :: List.replicate seen '#') c

/- Read a character. -/
def step : Scan → Char → Stepped
  | .space, c => start c
  | .behindText, c => if continuesWord c then none else start c
  | .word text, c => afterWord text c
  | .number value, c => afterDigit value c
  | .quoted text, c => inQuoted text c
  | .escape text, c => inEscape text c
  | .joined text, c =>
      if c = ' ' ∨ c = '\n' ∨ c = '\t' then
        some ([], .joined text)
      else inQuoted text c
  | .byte text high, c => inByte text high c
  | .braced text, c =>
      if c = '\x7b' then some ([], .codePoint text 0 0) else none
  | .codePoint text value length, c =>
      inCodePoint text value length c
  | .fence hashes, c =>
      if c = '#' then some ([], .fence (hashes + 1))
      else if c = '"' then some ([], .raw hashes [])
      else none
  | .raw hashes text, c => inRaw hashes text c
  | .closing hashes seen text, c =>
      inClosing hashes seen text c

/- The lexemes that the end of the source ends. -/
def finish : Scan → Option (List Lexeme)
  | .space | .behindText => some []
  | .word text => some [.word (String.ofList text)]
  | .number value => some [.number value]
  | _ => none

end Scan

------------------------------------------------------------
-- Whole Texts
------------------------------------------------------------

/- Read characters in order. -/
def scan
    (state : Scan) : List Char → Stepped
  | [] => some ([], state)
  | c :: rest => do
      let (lexemes, state) ← state.step c
      let (others, state) ← scan state rest
      return (lexemes ++ others, state)

/- The lexemes up to the end of the source. -/
def lexFrom
    (state : Scan)
    (text : List Char) : Option (List Lexeme) := do
  let (lexemes, state) ← scan state text
  let last ← state.finish
  return lexemes ++ last

/- The lexemes of a text. -/
def lex
    (text : String) : Option (List Lexeme) :=
  lexFrom .space text.toList

end Source

end TextMate
