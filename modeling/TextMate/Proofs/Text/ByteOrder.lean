import Mathlib.Data.String.Basic
import TextMate.Text.Utf8

/-
  This file proves that texts are ordered by their bytes as they
  are by their characters.

  A character with more bytes has a greater first byte.  Those
  with as many bytes differ first where their code points do,
  six bits in each byte behind the first.  So the bytes that
  follow never matter.

  Main declarations:
    * `Text.KeepsOrder`
    * `Text.keepsOrder_lead`
    * `Text.KeepsOrder.more`
    * `Text.utf8EncodeChar_append_lt`
    * `Text.bytes_lt`
-/

namespace TextMate

namespace Text

------------------------------------------------------------
-- Bytes of Numbers
------------------------------------------------------------

/-
  Smaller numbers up to a bound are written with smaller bytes,
  whatever follows these.
-/
def KeepsOrder
    (bound : Nat)
    (write : Nat → List UInt8) : Prop :=
  ∀ m n, m < n → n < bound →
    ∀ first second, write m ++ first < write n ++ second

/- A byte decides if it is smaller. -/
theorem cons_lt_cons_of_lt
    {m n : Nat}
    (hLess : m < n)
    (hBound : n < 256)
    (first second : List UInt8) :
    UInt8.ofNat m :: first < UInt8.ofNat n :: second := by
  rw [List.cons_lt_cons_iff, UInt8.lt_iff_toNat_lt,
    UInt8.toNat_ofNat', UInt8.toNat_ofNat']
  exact Or.inl (by omega)

/- A first byte has some bits behind its mark. -/
def lead
    (size : Nat)
    (mark : Nat)
    (n : Nat) : List UInt8 :=
  [UInt8.ofNat (n % size + mark)]

/- Six bits are in the byte behind those for the other bits. -/
def more
    (write : Nat → List UInt8)
    (n : Nat) : List UInt8 :=
  write (n / 64) ++ [UInt8.ofNat (n % 64 + 0x80)]

theorem keepsOrder_lead
    (size mark : Nat)
    (hByte : size + mark ≤ 256) :
    KeepsOrder size (lead size mark) := by
  intro m n hLess hBound first second
  have hBefore : m % size = m := Nat.mod_eq_of_lt (by omega)
  have hAfter : n % size = n := Nat.mod_eq_of_lt hBound
  unfold lead
  rw [hBefore, hAfter]
  exact cons_lt_cons_of_lt (by omega) (by omega) first second

theorem KeepsOrder.more
    {bound : Nat}
    {write : Nat → List UInt8}
    (hWrite : KeepsOrder bound write) :
    KeepsOrder (64 * bound) (Text.more write) := by
  intro m n hLess hBound first second
  unfold Text.more
  rw [List.append_assoc, List.append_assoc]
  by_cases hSame : m / 64 = n / 64
  · rw [hSame]
    apply List.append_left_lt
    exact cons_lt_cons_of_lt (by omega) (by omega) first second
  · exact hWrite _ _ (by omega) (by omega) _ _

/-
  Numbers up to a limit and those behind it keep their order if
  the first ones have smaller bytes than the others.
-/
theorem KeepsOrder.ite
    {limit bound : Nat}
    {small large : Nat → List UInt8}
    (hSmall : KeepsOrder (limit + 1) small)
    (hLarge : KeepsOrder bound large)
    (hAcross :
      ∀ m n, m ≤ limit → limit < n → n < bound →
        ∀ first second, small m ++ first < large n ++ second) :
    KeepsOrder bound fun n =>
      if n ≤ limit then small n else large n := by
  intro m n hLess hBound first second
  dsimp only
  by_cases hFirst : m ≤ limit
  · rw [if_pos hFirst]
    by_cases hSecond : n ≤ limit
    · rw [if_pos hSecond]
      exact hSmall m n hLess (by omega) first second
    · rw [if_neg hSecond]
      exact
        hAcross m n hFirst (by omega) hBound first second
  · rw [if_neg hFirst, if_neg (by omega)]
    exact hLarge m n hLess hBound first second

------------------------------------------------------------
-- Bytes of Characters
------------------------------------------------------------

/- The bytes of a code point, by how many there are. -/
def encode
    (n : Nat) : List UInt8 :=
  if n ≤ 0x7f then lead 0x80 0 n
  else if n ≤ 0x7ff then more (lead 0x20 0xc0) n
  else if n ≤ 0xffff then more (more (lead 0x10 0xe0)) n
  else more (more (more (lead 0x08 0xf0))) n

/- These are the bytes of a character. -/
theorem utf8EncodeChar_eq_encode
    (c : Char) :
    String.utf8EncodeChar c = encode c.val.toNat := by
  unfold String.utf8EncodeChar encode
  generalize c.val.toNat = n
  dsimp only
  split
  · simp [lead, Nat.mod_eq_of_lt (show n < 0x80 by omega)]
  · simp only [more, lead, Nat.div_div_eq_div_mul,
      List.cons_append, List.nil_append]

/-
  Smaller code points have smaller bytes.  One with more bytes
  has a greater mark in its first byte.
-/
theorem keepsOrder_encode :
    KeepsOrder (64 * (64 * (64 * 0x08))) encode := by
  have hOne : KeepsOrder (0x7f + 1) (lead 0x80 0) :=
    keepsOrder_lead 0x80 0 (by omega)
  have hTwo : KeepsOrder (0x7ff + 1) (more (lead 0x20 0xc0)) :=
    (keepsOrder_lead 0x20 0xc0 (by omega)).more
  have hThree :
      KeepsOrder (0xffff + 1) (more (more (lead 0x10 0xe0))) :=
    (keepsOrder_lead 0x10 0xe0 (by omega)).more.more
  have hFour :
      KeepsOrder (64 * (64 * (64 * 0x08)))
        (more (more (more (lead 0x08 0xf0)))) :=
    (keepsOrder_lead 0x08 0xf0 (by omega)).more.more.more
  refine hOne.ite (hTwo.ite (hThree.ite hFour ?_) ?_) ?_
  · intro m n _ _ _ first second
    exact cons_lt_cons_of_lt (by omega) (by omega) _ _
  · intro m n _ _ _ first second
    split <;> exact cons_lt_cons_of_lt (by omega) (by omega) _ _
  · intro m n _ _ _ first second
    split_ifs <;>
      exact cons_lt_cons_of_lt (by omega) (by omega) _ _

/- A smaller character has smaller bytes, whatever follows. -/
theorem utf8EncodeChar_append_lt
    {c d : Char}
    (hLess : c < d)
    (first second : List UInt8) :
    String.utf8EncodeChar c ++ first <
      String.utf8EncodeChar d ++ second := by
  have hBound : d.val.toNat < 64 * (64 * (64 * 0x08)) := by
    rcases d.valid with hLow | hHigh
    · exact Nat.lt_trans hLow (by decide)
    · exact Nat.lt_trans hHigh.2 (by decide)
  rw [utf8EncodeChar_eq_encode, utf8EncodeChar_eq_encode]
  exact
    keepsOrder_encode _ _ (UInt32.lt_iff_toNat_lt.mp hLess)
      hBound first second

/- The bytes of texts are ordered as their characters are. -/
theorem bytes_lt
    {x y : String}
    (hLess : x < y) :
    bytes x < bytes y := by
  have hChars : List.Lex (· < ·) x.toList y.toList :=
    String.lt_iff_toList_lt.mp hLess
  unfold bytes
  generalize x.toList = first at hChars
  generalize y.toList = second at hChars
  induction hChars with
  | @nil d rest =>
      rw [List.flatMap_nil, List.flatMap_cons]
      cases hBytes : String.utf8EncodeChar d with
      | nil => exact absurd hBytes String.utf8EncodeChar_ne_nil
      | cons _ _ => exact .nil
  | cons _ ih =>
      rw [List.flatMap_cons, List.flatMap_cons]
      exact List.append_left_lt ih
  | rel hChar =>
      rw [List.flatMap_cons, List.flatMap_cons]
      exact utf8EncodeChar_append_lt hChar _ _

end Text

end TextMate
