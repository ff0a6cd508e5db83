import TextMate.Json.Fault

/-
  This file defines how the words, strings and numbers of a
  JSON text are read from the front of a list of characters.

  Every reader returns what is left together with a proof
  that it is no longer, or shorter, than what it was given.

  Key definitions include:
    * `Rest`
    * `Tail`
    * `skipBlanks`
    * `expectWord`
    * `readString`
    * `readNumber`
-/

namespace TextMate

namespace Json

open Text (isDigit digitValue hexValue?)

------------------------------------------------------------
-- What Is Left
------------------------------------------------------------

/- A text shorter than the one that was given. -/
abbrev Rest (text : List Char) :=
  { rest : List Char // rest.length < text.length }

/- A text no longer than the one that was given. -/
abbrev Tail (text : List Char) :=
  { rest : List Char // rest.length ≤ text.length }

/- All of a text is left. -/
def Tail.all
    (text : List Char) : Tail text :=
  ⟨text, Nat.le_refl _⟩

/- All but the first character is left. -/
def Tail.afterFirst
    (c : Char)
    (text : List Char) : Tail (c :: text) :=
  ⟨text, by simp only [List.length_cons]; omega⟩

/- All but the first character is left, which is shorter. -/
def Rest.afterFirst
    (c : Char)
    (text : List Char) : Rest (c :: text) :=
  ⟨text, by simp only [List.length_cons]; omega⟩

/- What is left without a first character is left with it. -/
def Tail.extend
    {text : List Char}
    (c : Char)
    (tail : Tail text) : Tail (c :: text) :=
  ⟨tail.val, by
    have := tail.property
    simp only [List.length_cons]
    omega⟩

/- A text that is no longer is shorter than one with more. -/
def Rest.ofTail
    {text : List Char}
    (c : Char)
    (tail : Tail text) : Rest (c :: text) :=
  ⟨tail.val, by
    have := tail.property
    simp only [List.length_cons]
    omega⟩

/- A shorter text is left of a text with more as well. -/
def Rest.extend
    {text : List Char}
    (c : Char)
    (rest : Rest text) : Rest (c :: text) :=
  ⟨rest.val, by
    have := rest.property
    simp only [List.length_cons]
    omega⟩

/- What is left of what is left of a text. -/
def Tail.trans
    {whole : List Char}
    (tail : Tail whole)
    (last : Tail tail.val) : Tail whole :=
  ⟨last.val, Nat.le_trans last.property tail.property⟩

/- What is left of a shorter text is shorter as well. -/
def Rest.trans
    {whole : List Char}
    (rest : Rest whole)
    (last : Rest rest.val) : Rest whole :=
  ⟨last.val, Nat.lt_trans last.property rest.property⟩

/- A shorter text that is left of what is left. -/
def Tail.shorten
    {whole : List Char}
    (tail : Tail whole)
    (last : Rest tail.val) : Rest whole :=
  ⟨last.val, Nat.lt_of_lt_of_le last.property tail.property⟩

/- What is left of the rest of a text is left of the text. -/
def Tail.inside
    {whole text : List Char}
    (shorter : text.length + 1 ≤ whole.length)
    (tail : Tail text) : Tail whole :=
  ⟨tail.val, by
    have := tail.property
    omega⟩

/- What is shorter than the rest of a text is shorter. -/
def Rest.inside
    {whole text : List Char}
    (shorter : text.length + 1 ≤ whole.length)
    (rest : Rest text) : Rest whole :=
  ⟨rest.val, by
    have := rest.property
    omega⟩

/- Dropping a run of characters leaves a text no longer. -/
theorem length_dropWhile_le
    (test : Char → Bool)
    (text : List Char) :
    (text.dropWhile test).length ≤ text.length := by
  induction text with
  | nil => simp
  | cons c rest ih =>
      rw [List.dropWhile_cons]
      split
      · simp only [List.length_cons]
        omega
      · simp

/- What is left after a run of characters. -/
def dropRun
    (test : Char → Bool)
    (text : List Char) : Tail text :=
  ⟨text.dropWhile test, length_dropWhile_le test text⟩

------------------------------------------------------------
-- Blanks and Words
------------------------------------------------------------

/- The characters that may stand between tokens. -/
def isBlank
    (c : Char) : Bool :=
  c == ' ' || c == '\n' || c == '\t' || c == '\r'

/- What is left after the blanks at the start. -/
def skipBlanks
    (text : List Char) : Tail text :=
  dropRun isBlank text

/- Read the given characters. -/
def expectWord :
    (word : List Char) →
    (text : List Char) →
    Except Fault (Tail text)
  | [], text => .ok ⟨text, Nat.le_refl _⟩
  | _ :: _, [] => .error (.here .endInValue [])
  | expected :: word, c :: text =>
      if c = expected then
        match expectWord word text with
        | .error fault => .error fault
        | .ok ⟨rest, hRest⟩ =>
            .ok ⟨rest, by simp only [List.length_cons]; omega⟩
      else .error (.next .expectedWord (c :: text))

------------------------------------------------------------
-- Strings
------------------------------------------------------------

/- The number written by four hexadecimal digits. -/
def hexNumber?
    (a b c d : Char) : Option Nat := do
  let a ← hexValue? a
  let b ← hexValue? b
  let c ← hexValue? c
  let d ← hexValue? d
  return ((a * 16 + b) * 16 + c) * 16 + d

/-
  A fault at a group of four bytes that are not hexadecimal
  digits, or at the end when fewer are left.
-/
def hexFault
    (text : List Char) : Fault :=
  if Text.byteLength text < 4 then .here .endInString []
  else ⟨.invalidEscape, text, 4, 4⟩

/- Read four hexadecimal digits. -/
def readHex :
    (text : List Char) →
    Except Fault (Nat × Rest text)
  | a :: b :: c :: d :: text =>
      match hexNumber? a b c d with
      | some n => .ok (n, ⟨text, by simp; omega⟩)
      | none => .error (hexFault (a :: b :: c :: d :: text))
  | text => .error (hexFault text)

/- The first half of a surrogate pair. -/
def isHighSurrogate
    (n : Nat) : Bool :=
  0xD800 ≤ n && n ≤ 0xDBFF

/- The second half of a surrogate pair. -/
def isLowSurrogate
    (n : Nat) : Bool :=
  0xDC00 ≤ n && n ≤ 0xDFFF

/- The character that a surrogate pair stands for. -/
def pairedChar
    (high low : Nat) : Char :=
  Char.ofNat
    (0x10000 + (high - 0xD800) * 0x400 + (low - 0xDC00))

/- Read the second half of a surrogate pair. -/
def readLowSurrogate
    (high : Nat) :
    (text : List Char) →
    Except Fault (Char × Rest text)
  | [] => .error (.here .endInString [])
  | '\\' :: [] => .error (.here .endInString [])
  | '\\' :: 'u' :: text =>
      match readHex text with
      | .error fault => .error fault
      | .ok (low, ⟨rest, hRest⟩) =>
          if isLowSurrogate low then
            .ok (pairedChar high low,
              ⟨rest, by simp only [List.length_cons]; omega⟩)
          else .error (.here .loneSurrogate rest)
  | '\\' :: text => .error (.next .endOfHexEscape text)
  | text => .error (.next .endOfHexEscape text)

/- Read the digits of a `\u` escape. -/
def readUnicode
    (text : List Char) :
    Except Fault (Char × Rest text) :=
  match readHex text with
  | .error fault => .error fault
  | .ok (n, ⟨rest, hRest⟩) =>
      if isLowSurrogate n then
        .error (.here .loneSurrogate rest)
      else if isHighSurrogate n then
        match readLowSurrogate n rest with
        | .error fault => .error fault
        | .ok (c, ⟨rest', hRest'⟩) =>
            .ok (c, ⟨rest', by omega⟩)
      else .ok (Char.ofNat n, ⟨rest, hRest⟩)

/- The character that a letter after a backslash means. -/
def simpleEscape? : Char → Option Char
  | '"' => some '"'
  | '\\' => some '\\'
  | '/' => some '/'
  | 'b' => some '\x08'
  | 'f' => some '\x0c'
  | 'n' => some '\n'
  | 'r' => some '\r'
  | 't' => some '\t'
  | _ => none

/- Read what follows a backslash in a string. -/
def readEscape :
    (text : List Char) →
    Except Fault (Char × Rest text)
  | [] => .error (.here .endInString [])
  | 'u' :: text =>
      match readUnicode text with
      | .error fault => .error fault
      | .ok (c, ⟨rest, hRest⟩) =>
          .ok (c,
            ⟨rest, by simp only [List.length_cons]; omega⟩)
  | c :: text =>
      match simpleEscape? c with
      | some value => .ok (value, ⟨text, by simp⟩)
      | none => .error (.next .invalidEscape (c :: text))

/- A control character, which no string may hold. -/
def isControl
    (c : Char) : Bool :=
  c.toNat < 0x20

/- Read the rest of a string after its opening quote. -/
def readString
    (text : List Char) :
    Except Fault (List Char × Rest text) :=
  match text with
  | [] => .error (.here .endInString [])
  | '"' :: text => .ok ([], ⟨text, by simp⟩)
  | '\\' :: text =>
      match readEscape text with
      | .error fault => .error fault
      | .ok (c, ⟨rest, hRest⟩) =>
          match readString rest with
          | .error fault => .error fault
          | .ok (cs, ⟨rest', hRest'⟩) =>
              .ok (c :: cs,
                ⟨rest', by simp only [List.length_cons]; omega⟩)
  | c :: text =>
      if isControl c then
        .error (.here .controlCharacter text)
      else
        match readString text with
        | .error fault => .error fault
        | .ok (cs, ⟨rest, hRest⟩) =>
            .ok (c :: cs,
              ⟨rest, by simp only [List.length_cons]; omega⟩)
termination_by text.length
decreasing_by
  all_goals simp only [List.length_cons]
  all_goals omega

------------------------------------------------------------
-- Numbers
------------------------------------------------------------

def startsWithDigit : List Char → Bool
  | c :: _ => isDigit c
  | [] => false

/- The greatest significand that is kept exactly. -/
def maxSignificand : Nat := Nat.pow 2 64 - 1

/-
  Append digits to a significand as long as it stays within
  bounds.  Counts the digits that were taken.
-/
def absorbDigits
    (significand : Nat) :
    (text : List Char) →
    Nat × Nat × Tail text
  | [] => (significand, 0, ⟨[], Nat.le_refl _⟩)
  | c :: text =>
      let longer := significand * 10 + digitValue c
      if isDigit c && longer ≤ maxSignificand then
        let (total, count, ⟨rest, hRest⟩) :=
          absorbDigits longer text
        (total, count + 1,
          ⟨rest, by simp only [List.length_cons]; omega⟩)
      else (significand, 0, ⟨c :: text, Nat.le_refl _⟩)

/- The greatest exponent that is read exactly. -/
def maxExponentPart : Nat := Nat.pow 2 31 - 1

/- An exponent kept within the bounds of 32 bits. -/
def clampExponent
    (exponent : Int) : Int :=
  max (-maxExponentPart - 1) (min maxExponentPart exponent)

/- The double for the parts of a number. -/
def finishDouble
    (negative : Bool)
    (significand : Nat)
    (exponent : Int)
    (text : List Char) :
    Except Fault (Number × Tail text) :=
  match Binary64.ofParts? negative significand exponent with
  | some x => .ok (.double x, ⟨text, Nat.le_refl _⟩)
  | none => .error (.looked .numberOutOfRange text)

/- How the digits of an exponent end. -/
inductive ExponentDigits (text : List Char) where
  | value (exponent : Nat) (rest : Tail text)
  | overflow (rest : Tail text)

def exponentDigits
    (exponent : Nat) :
    (text : List Char) →
    ExponentDigits text
  | [] => .value exponent ⟨[], Nat.le_refl _⟩
  | c :: text =>
      if isDigit c then
        let longer := exponent * 10 + digitValue c
        if longer ≤ maxExponentPart then
          match exponentDigits longer text with
          | .value total ⟨rest, hRest⟩ =>
              .value total
                ⟨rest, by simp only [List.length_cons]; omega⟩
          | .overflow ⟨rest, hRest⟩ =>
              .overflow
                ⟨rest, by simp only [List.length_cons]; omega⟩
        else .overflow ⟨text, by simp⟩
      else .value exponent ⟨c :: text, Nat.le_refl _⟩

def readExponentDigits
    (negative : Bool)
    (significand : Nat)
    (start : Int)
    (negativeExponent : Bool) :
    (text : List Char) →
    Except Fault (Number × Tail text)
  | [] => .error (.here .endInValue [])
  | c :: text =>
      if isDigit c then
        match exponentDigits (digitValue c) text with
        | .value exponent ⟨rest, hRest⟩ =>
            let exponent : Int :=
              if negativeExponent then start - exponent
              else start + exponent
            match finishDouble negative significand
                (clampExponent exponent) rest with
            | .error fault => .error fault
            | .ok (number, ⟨rest', hRest'⟩) =>
                .ok (number,
                  ⟨rest', by simp only [List.length_cons]; omega⟩)
        | .overflow ⟨rest, hRest⟩ =>
            if significand ≠ 0 ∧ negativeExponent = false then
              .error (.here .numberOutOfRange rest)
            else
              let ⟨rest', hRest'⟩ := dropRun isDigit rest
              .ok (.double (Binary64.zero negative),
                ⟨rest', by simp only [List.length_cons]; omega⟩)
      else .error (.next .invalidNumber (c :: text))

def readExponent
    (negative : Bool)
    (significand : Nat)
    (start : Int) :
    (text : List Char) →
    Except Fault (Number × Tail text)
  | '+' :: text =>
      match readExponentDigits negative significand start
          false text with
      | .error fault => .error fault
      | .ok (number, ⟨rest, hRest⟩) =>
          .ok (number,
            ⟨rest, by simp only [List.length_cons]; omega⟩)
  | '-' :: text =>
      match readExponentDigits negative significand start
          true text with
      | .error fault => .error fault
      | .ok (number, ⟨rest, hRest⟩) =>
          .ok (number,
            ⟨rest, by simp only [List.length_cons]; omega⟩)
  | text =>
      readExponentDigits negative significand start false text

/- The letters that start an exponent. -/
def isExponentMark
    (c : Char) : Bool :=
  c == 'e' || c == 'E'

/- Read an exponent if there is one, and finish the number. -/
def readScaled
    (negative : Bool)
    (significand : Nat)
    (exponent : Int) :
    (text : List Char) →
    Except Fault (Number × Tail text)
  | [] => finishDouble negative significand exponent []
  | c :: text =>
      if isExponentMark c then
        match readExponent negative significand exponent
            text with
        | .error fault => .error fault
        | .ok (number, ⟨rest, hRest⟩) =>
            .ok (number,
              ⟨rest, by simp only [List.length_cons]; omega⟩)
      else
        finishDouble negative significand exponent (c :: text)

/-
  Read the digits after a decimal point.  Digits that would
  take the significand out of bounds are dropped.
-/
def readDecimals
    (negative : Bool)
    (significand : Nat)
    (exponent : Int)
    (text : List Char) :
    Except Fault (Number × Tail text) :=
  let (total, count, ⟨rest, hRest⟩) :=
    absorbDigits significand text
  if count = 0 ∧ startsWithDigit rest = false then
    match rest with
    | [] => .error (.here .endInValue [])
    | c :: rest => .error (.next .invalidNumber (c :: rest))
  else
    let ⟨rest', hRest'⟩ := dropRun isDigit rest
    match readScaled negative total
        (exponent - (count : Int)) rest' with
    | .error fault => .error fault
    | .ok (number, ⟨last, hLast⟩) =>
        .ok (number, ⟨last, by omega⟩)

/- Read what follows the digits before the decimal point. -/
def readFraction
    (negative : Bool)
    (significand : Nat)
    (exponent : Int) :
    (text : List Char) →
    Except Fault (Number × Tail text)
  | '.' :: text =>
      match readDecimals negative significand exponent
          text with
      | .error fault => .error fault
      | .ok (number, ⟨rest, hRest⟩) =>
          .ok (number,
            ⟨rest, by simp only [List.length_cons]; omega⟩)
  | text => readScaled negative significand exponent text

/- The number is written on after its integer digits. -/
def isContinued : List Char → Bool
  | c :: _ => c == '.' || isExponentMark c
  | [] => false

/-
  The number for an integer text: an integer when 64 bits
  hold it, and otherwise a double, as is the negative zero.
-/
def integerNumber
    (negative : Bool)
    (significand : Nat) : Number :=
  if negative then
    if significand = 0 ∨ Nat.pow 2 63 < significand then
      .double ((Binary64.ofNat significand).withSign true)
    else .integer (-(significand : Int))
  else .integer significand

/- Read what follows a significand within bounds. -/
def finishNumber
    (negative : Bool)
    (significand : Nat)
    (text : List Char) :
    Except Fault (Number × Tail text) :=
  if isContinued text then
    readFraction negative significand 0 text
  else
    .ok (integerNumber negative significand,
      ⟨text, Nat.le_refl _⟩)

def readNumber
    (negative : Bool) :
    (text : List Char) →
    Except Fault (Number × Rest text)
  | [] => .error (.here .endInValue [])
  | c :: text =>
      if c = '0' then
        if startsWithDigit text then
          .error (.next .invalidNumber text)
        else
          match finishNumber negative 0 text with
          | .error fault => .error fault
          | .ok (number, ⟨rest, hRest⟩) =>
              .ok (number,
                ⟨rest, by simp only [List.length_cons]; omega⟩)
      else if isDigit c then
        let (total, _, ⟨rest, hRest⟩) :=
          absorbDigits (digitValue c) text
        if startsWithDigit rest then
          let ⟨rest', hRest'⟩ := dropRun isDigit rest
          let dropped := rest.length - rest'.length
          match readFraction negative total dropped rest' with
          | .error fault => .error fault
          | .ok (number, ⟨last, hLast⟩) =>
              .ok (number,
                ⟨last, by simp only [List.length_cons]; omega⟩)
        else
          match finishNumber negative total rest with
          | .error fault => .error fault
          | .ok (number, ⟨last, hLast⟩) =>
              .ok (number,
                ⟨last, by simp only [List.length_cons]; omega⟩)
      else .error (.next .invalidNumber (c :: text))

end Json

end TextMate
