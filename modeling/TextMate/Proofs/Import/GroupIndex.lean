import TextMate.Import
import TextMate.Proofs.Text.Digits

/-
  This file proves which captures keys name a group, and that
  the index of a group is read from its own decimal text.

  Main declarations:
    * `number?_eq_some_iff`
    * `IsIndexKey`
    * `isSome_groupIndex?_iff`
    * `groupIndex?_toString`
    * `toString_index_injective`
-/

namespace TextMate

namespace Import

------------------------------------------------------------
-- Numbers
------------------------------------------------------------

/- Digits alone are read, as the number that they write. -/
theorem decimal?_eq_some_iff
    (digits : List Char)
    (value number : Nat) :
    decimal? value digits = some number ↔
      (∀ c ∈ digits, Text.isDigit c = true) ∧
        Nat.ofDigitChars 10 digits value = number := by
  induction digits generalizing value with
  | nil => simp [decimal?]
  | cons c rest ih =>
      rw [decimal?, List.forall_mem_cons, Nat.ofDigitChars_cons]
      cases hDigit : Text.isDigit c with
      | true =>
          have hValue : digit? c = some (c.toNat - '0'.toNat) :=
            if_pos hDigit
          rw [hValue, Nat.mul_comm 10 value]
          simp only [ih, true_and]
      | false =>
          have hNone : digit? c = none :=
            if_neg (ne_true_of_eq_false hDigit)
          rw [hNone]
          simp

/- A text of digits is read if there is one. -/
theorem number?_eq_some_iff
    (digits : List Char)
    (number : Nat) :
    number? digits = some number ↔
      digits ≠ [] ∧ (∀ c ∈ digits, Text.isDigit c = true) ∧
        Nat.ofDigitChars 10 digits 0 = number := by
  cases digits with
  | nil => simp [number?]
  | cons c rest =>
      rw [and_iff_right (List.cons_ne_nil c rest)]
      exact decimal?_eq_some_iff (c :: rest) 0 number

------------------------------------------------------------
-- Keys That Name Groups
------------------------------------------------------------

/- What is left of a key without its sign. -/
def unsigned : List Char → List Char
  | '+' :: digits => digits
  | digits => digits

/- The index that digits write. -/
def digitsIndex?
    (digits : List Char) : Option UInt32 :=
  match number? digits with
  | some value =>
      if value < UInt32.size then some value.toUInt32
      else none
  | none => none

theorem groupIndex?_eq
    (key : String) :
    groupIndex? key = digitsIndex? (unsigned key.toList) := rfl

/-
  A text that names a group: decimal digits, at least one, of a
  number of 32 bits, behind a plus sign or behind none.
-/
def IsIndexKey
    (key : String) : Prop :=
  ∃ digits : List Char,
    (key.toList = digits ∨ key.toList = '+' :: digits) ∧
      digits ≠ [] ∧
      (∀ c ∈ digits, Text.isDigit c = true) ∧
      Nat.ofDigitChars 10 digits 0 ≤ 4294967295

/- Digits are what is left of a text with a sign or without. -/
theorem unsigned_eq_iff
    {text digits : List Char}
    (hDigits : ∀ c ∈ digits, Text.isDigit c = true) :
    unsigned text = digits ↔
      text = digits ∨ text = '+' :: digits := by
  have hNoSign : ∀ rest, digits ≠ '+' :: rest := by
    rintro rest rfl
    have hSign := hDigits '+' List.mem_cons_self
    revert hSign
    decide
  unfold unsigned
  split
  · rename_i rest
    rw [List.cons.injEq, and_iff_right rfl]
    exact (or_iff_right fun hEqual => hNoSign rest hEqual.symm).symm
  · rename_i hNone
    refine (or_iff_left fun hEqual => ?_).symm
    exact hNone digits hEqual

/- Digits write an index if they are those of 32 bits. -/
theorem isSome_digitsIndex?_iff
    (digits : List Char) :
    (digitsIndex? digits).isSome ↔
      digits ≠ [] ∧ (∀ c ∈ digits, Text.isDigit c = true) ∧
        Nat.ofDigitChars 10 digits 0 ≤ 4294967295 := by
  have hNumber :
      (digitsIndex? digits).isSome ↔
        ∃ value, number? digits = some value ∧
          value < UInt32.size := by
    unfold digitsIndex?
    cases number? digits with
    | none => simp
    | some value =>
        by_cases hBound : value < UInt32.size
        · simp [hBound]
        · simp [hBound]
  rw [hNumber]
  simp only [number?_eq_some_iff]
  constructor
  · rintro ⟨value, ⟨hSome, hDigits, rfl⟩, hBound⟩
    exact ⟨hSome, hDigits, Nat.le_of_lt_succ hBound⟩
  · rintro ⟨hSome, hDigits, hBound⟩
    exact ⟨_, ⟨hSome, hDigits, rfl⟩, Nat.lt_succ_of_le hBound⟩

/- A key is read as an index just if it names a group. -/
theorem isSome_groupIndex?_iff
    (key : String) :
    (groupIndex? key).isSome ↔ IsIndexKey key := by
  rw [groupIndex?_eq, isSome_digitsIndex?_iff]
  constructor
  · rintro ⟨hSome, hDigits, hBound⟩
    have hText := (unsigned_eq_iff hDigits).mp rfl
    exact ⟨_, hText, hSome, hDigits, hBound⟩
  · rintro ⟨digits, hText, hSome, hDigits, hBound⟩
    rw [(unsigned_eq_iff hDigits).mpr hText]
    exact ⟨hSome, hDigits, hBound⟩

instance : DecidablePred IsIndexKey := fun key =>
  decidable_of_iff _ (isSome_groupIndex?_iff key)

------------------------------------------------------------
-- Texts of Indexes
------------------------------------------------------------

/- An index is read from its decimal text. -/
@[simp] theorem groupIndex?_toString
    (index : UInt32) :
    groupIndex? (toString index.toNat) = some index := by
  have hDigits :
      ∀ c ∈ Nat.toDigits 10 index.toNat,
        Text.isDigit c = true :=
    fun c hMember => Text.isDigit_of_mem_toDigits hMember
  have hNumber :
      number? (Nat.toDigits 10 index.toNat) =
        some index.toNat :=
    (number?_eq_some_iff _ _).mpr
      ⟨Nat.toDigits_ne_nil, hDigits,
        Nat.ofDigitChars_ten_toDigits⟩
  have hBound : index.toNat < UInt32.size :=
    index.toNat_lt_size
  rw [groupIndex?_eq, Nat.toString_eq_repr, Nat.toList_repr,
    (unsigned_eq_iff hDigits).mpr (Or.inl rfl), digitsIndex?,
    hNumber]
  simp [hBound]

/- Different indexes have different texts. -/
theorem toString_index_injective
    {first second : UInt32}
    (hText :
      toString first.toNat = toString second.toNat) :
    first = second := by
  have hRead := congrArg groupIndex? hText
  rw [groupIndex?_toString, groupIndex?_toString] at hRead
  exact Option.some.inj hRead

end Import

end TextMate
