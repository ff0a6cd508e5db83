import TextMate.Oniguruma.Escape

/-
  This file defines the reading of group names: in
  definitions, in calls, and in references and conditions.

  A name that cannot be used is reported with the part of the
  pattern that was taken for it.

  Key definitions include:
    * `GroupName`
    * `closingMark`
    * `readGroupName`
    * `readReferenceName`
-/

namespace TextMate

namespace Oniguruma

open Text (isDigit isWord)

------------------------------------------------------------
-- Names
------------------------------------------------------------

/-
  How a group is named: by its number, by its distance from
  here, or by a name.
-/
inductive GroupName where
  | number (value : Nat)
  | relative (distance : Int)
  | name
deriving DecidableEq

structure NamedGroup where
  name : GroupName
  text : List Char
  rest : List Char

def closingMark : Char → Char
  | '<' => '>'
  | '(' => ')'
  | c => c

/-
  A name up to a mark.  Without the mark, the last character
  is left out unless the name has no other.
-/
def shownName
    (stops : Char → Bool)
    (first : Char)
    (rest : List Char) : List Char :=
  let name := rest.takeWhile (fun c => !stops c)
  if rest.any stops then first :: name
  else first :: name.dropLast

/- The number written by digits, if it is not too big. -/
def nameNumber
    (digits : List Char) : Except Refusal Nat :=
  let numeral := takeDecimal digits
  if maxNumber < numeral.value then .error .numberTooBig
  else .ok numeral.value

/- How the first character of a name shapes it. -/
inductive NameShape where
  | digits
  | plus
  | minus
  | word
deriving DecidableEq

def NameShape.ofChar?
    (c : Char) : Option NameShape :=
  if isDigit c then some .digits
  else if c = '-' then some .minus
  else if c = '+' then some .plus
  else if isWord c then some .word
  else none

/- A distance of zero means nothing. -/
def signedName
    (shape : NameShape)
    (value : Nat)
    (shown : List Char) : Except Refusal GroupName :=
  match shape with
  | .digits => .ok (.number value)
  | .word => .ok .name
  | .plus =>
      if value = 0 then .error (.invalidGroupName shown)
      else .ok (.relative value)
  | .minus =>
      if value = 0 then .error (.invalidGroupName shown)
      else .ok (.relative (-(value : Int)))

/- The digits of a name that has a sign or none. -/
def nameDigits
    (shape : NameShape)
    (name : List Char) : List Char :=
  match shape with
  | .plus | .minus => name.drop 1
  | _ => name

------------------------------------------------------------
-- Definitions and Calls
------------------------------------------------------------

/-
  The refusal of a name by its first character, with the text
  up to the closing mark.
-/
def refusedStart
    (reason : List Char → Refusal)
    (stops : Char → Bool)
    (text : List Char) : Refusal :=
  match text with
  | [] => reason []
  | first :: rest =>
      let name := rest.takeWhile (fun c => !stops c)
      let after := rest.dropWhile (fun c => !stops c)
      if after.length ≤ 1 then reason text
      else reason (first :: name)

/-
  How a group is called.  A name that starts like a number and
  goes on otherwise is a name after all.
-/
def calledGroup
    (shape : NameShape)
    (shown : List Char) : Except Refusal GroupName :=
  if shape = .word then .ok .name
  else
    let digits := nameDigits shape shown
    if digits.any (fun c => !isDigit c) then .ok .name
    else if digits.isEmpty then
      .error (.invalidGroupName shown)
    else
      (nameNumber digits).bind fun value =>
        signedName shape value shown

/-
  Read the name of a group that is defined, or of one that is
  called.  Only a call can use a number.
-/
def readGroupName
    (close : Char)
    (isCall : Bool)
    (text : List Char) :
    Except Refusal NamedGroup :=
  let stops (c : Char) : Bool := c == close || c == ')'
  match text with
  | [] => .error .emptyGroupName
  | first :: rest =>
      if first = close then .error .emptyGroupName
      else
        match NameShape.ofChar? first with
        | none =>
            .error (refusedStart .invalidGroupNameChar stops
              text)
        | some shape =>
            if shape ≠ .word && !isCall then
              .error (refusedStart .invalidGroupName stops
                text)
            else
              let shown := shownName stops first rest
              match rest.dropWhile (fun c => !stops c) with
              | [] => .error (.invalidGroupName shown)
              | c :: after =>
                  if c ≠ close then
                    .error (.invalidGroupName shown)
                  else
                    (calledGroup shape shown).map fun group =>
                      ⟨group, shown, after⟩

------------------------------------------------------------
-- References
------------------------------------------------------------

/-
  The reason to refuse the characters of a reference, if there
  is one.  `isNumber` holds until a character is no digit.
-/
def referenceRefusal
    (isNumber : Bool)
    (reason : Option (List Char → Refusal)) :
    List Char → Option (List Char → Refusal)
  | [] => reason
  | c :: rest =>
      if isNumber then
        if isDigit c then referenceRefusal true reason rest
        else
          referenceRefusal false
            (some .invalidGroupName) rest
      else if isWord c then referenceRefusal false reason rest
      else
        referenceRefusal false
          (some .invalidGroupNameChar) rest

/-
  Read a nesting level after its sign, up to the closing mark.
  None when there is something else.
-/
def readLevel?
    (close : Char)
    (text : List Char) :
    Except Refusal (Option (List Char)) :=
  let numeral := takeDecimal text
  if numeral.count = 0 then .ok none
  else if maxNumber < numeral.value then
    .error .numberTooBig
  else
    match numeral.rest with
    | [] => .ok none
    | c :: rest => .ok (if c = close then some rest else none)

/-
  Read the name of a group in a reference or a condition.  A
  nesting level may follow it.
-/
def readReferenceName
    (close : Char)
    (text : List Char) :
    Except Refusal NamedGroup :=
  let stops (c : Char) : Bool :=
    c == close || c == ')' || c == '+' || c == '-'
  match text with
  | [] => .error .emptyGroupName
  | first :: rest =>
      if first = close then .error .emptyGroupName
      else do
        let shape := NameShape.ofChar? first
        let isNumber := shape != some .word && shape != none
        let further := rest.takeWhile (fun c => !stops c)
        let after := rest.dropWhile (fun c => !stops c)
        let shown := shownName stops first rest
        let start : Option (List Char → Refusal) :=
          if shape = none then some .invalidGroupNameChar
          else none
        let signOnly :=
          (shape == some .plus || shape == some .minus) &&
            further.isEmpty && !after.isEmpty
        let reason :=
          if signOnly then some Refusal.invalidGroupName
          else referenceRefusal isNumber start further
        match reason with
        | some reason => throw (reason shown)
        | none => pure ()
        let rest ←
          match after with
          | [] =>
              if rest.isEmpty &&
                  (shape == some .plus || shape == some .minus)
              then throw (.invalidGroupNameChar shown)
              else throw (.invalidGroupName text)
          | c :: after =>
              if c = close then pure after
              else if c = '+' || c = '-' then
                if after.isEmpty then
                  throw (.invalidGroupNameChar shown)
                else do
                  match ← readLevel? close after with
                  | some rest => pure rest
                  | none => throw (.invalidGroupName text)
              else throw (.invalidGroupName text)
        let shape := shape.getD .word
        if shape = .word then return ⟨.name, shown, rest⟩
        let value ← nameNumber (nameDigits shape shown)
        let group ← signedName shape value shown
        return ⟨group, shown, rest⟩

end Oniguruma

end TextMate
