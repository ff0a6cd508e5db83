import TextMate.Json.Binary64

/-
  This file defines JSON values whose objects keep the order
  of their keys.

  Key definitions include:
    * `Number`
    * `Value`
    * `Object`
    * `Object.lookup?`
    * `Object.insert`
    * `Value.same`
    * `Object.same`
-/

namespace TextMate

namespace Json

------------------------------------------------------------
-- Values
------------------------------------------------------------

/-
  A number is an integer of 64 bits, signed or unsigned, or a
  double precision value.
-/
inductive Number where
  | integer (value : Int)
  | double (value : Binary64)
deriving DecidableEq

/- A JSON value.  The keys of an object are in order. -/
inductive Value where
  | null
  | bool (value : Bool)
  | number (value : Number)
  | string (value : String)
  | array (items : List Value)
  | object (fields : List (String × Value))

/- The members of an object, in order. -/
abbrev Object := List (String × Value)

instance : Inhabited Value := ⟨.null⟩

------------------------------------------------------------
-- Members
------------------------------------------------------------

namespace Object

/- The value under a key. -/
def lookup?
    (fields : Object)
    (key : String) : Option Value :=
  List.lookup key fields

/-
  Set the value under a key.  A key that is present keeps its
  place, and a new one goes to the end.
-/
def insert
    (key : String)
    (value : Value) : Object → Object
  | [] => [(key, value)]
  | (name, old) :: rest =>
      if name = key then (name, value) :: rest
      else (name, old) :: insert key value rest

def keys
    (fields : Object) : List String :=
  fields.map Prod.fst

end Object

------------------------------------------------------------
-- Views
------------------------------------------------------------

namespace Value

def text? : Value → Option String
  | .string value => some value
  | _ => none

end Value

------------------------------------------------------------
-- Equality
------------------------------------------------------------

/- Numeric equality of numbers of the same type. -/
def Number.same : Number → Number → Bool
  | .integer x, .integer y => x == y
  | .double x, .double y => x.sameValue y
  | _, _ => false

/-
  Equality of values, for which the order of the keys of an
  object does not matter.
-/
mutual

def Value.same : Value → Value → Bool
  | .null, .null => true
  | .bool x, .bool y => x == y
  | .number x, .number y => x.same y
  | .string x, .string y => x == y
  | .array x, .array y => sameItems x y
  | .object x, .object y =>
      x.length == y.length && sameFields x y
  | _, _ => false
termination_by structural x => x

/- Equality of items, position by position. -/
def sameItems : List Value → List Value → Bool
  | [], [] => true
  | x :: xs, y :: ys => x.same y && sameItems xs ys
  | _, _ => false
termination_by structural x => x

/- Each member has an equal one in the other object. -/
def sameFields : List (String × Value) → Object → Bool
  | [], _ => true
  | (key, x) :: rest, other =>
      (match Object.lookup? other key with
        | some y => x.same y
        | none => false) && sameFields rest other
termination_by structural x => x

end

/- Equality of objects up to the order of their keys. -/
def Object.same
    (x y : Object) : Bool :=
  x.length == y.length && sameFields x y

end Json

end TextMate
