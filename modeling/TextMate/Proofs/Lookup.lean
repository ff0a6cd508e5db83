import Mathlib.Data.List.Nodup

/-
  This file proves that lists of pairs whose keys are distinct
  are tables: each pair in the list is the one that is found
  under its key.

  Main declarations:
    * `lookup_eq_some_iff_mem`
    * `eq_of_mem_of_key_eq`
-/

namespace TextMate

variable {κ α : Type}
variable {entries : List (κ × α)}

/- Pairs with the same key are the same pair. -/
theorem eq_of_mem_of_key_eq
    (hDistinct : (entries.map Prod.fst).Nodup)
    {x y : κ × α}
    (hFirst : x ∈ entries)
    (hSecond : y ∈ entries)
    (hKey : x.1 = y.1) :
    x = y :=
  List.inj_on_of_nodup_map hDistinct hFirst hSecond hKey

variable [BEq κ] [LawfulBEq κ]

/- The value under a key is that of the pair with the key. -/
theorem lookup_eq_some_iff_mem
    (hDistinct : (entries.map Prod.fst).Nodup)
    {key : κ}
    {value : α} :
    entries.lookup key = some value ↔
      (key, value) ∈ entries := by
  induction entries with
  | nil => simp
  | cons entry rest ih =>
      rcases entry with ⟨first, other⟩
      rw [List.map_cons, List.nodup_cons] at hDistinct
      rw [List.lookup_cons, List.mem_cons, Prod.mk.injEq]
      cases hFirst : key == first with
      | true =>
          have hSame : key = first := eq_of_beq hFirst
          subst hSame
          have hAbsent : (key, value) ∉ rest := fun hMember =>
            hDistinct.1 (List.mem_map.mpr ⟨_, hMember, rfl⟩)
          simp [hAbsent, eq_comm]
      | false =>
          have hOther : key ≠ first := ne_of_beq_false hFirst
          simp [hOther, ih hDistinct.2]

/- There is no value under a key that no pair has. -/
theorem lookup_eq_none_of_not_mem
    {key : κ}
    (hAbsent : key ∉ entries.map Prod.fst) :
    entries.lookup key = none := by
  rw [List.lookup_eq_none_iff]
  intro entry hEntry
  have hOther : key ≠ entry.1 := by
    rintro rfl
    exact hAbsent (List.mem_map_of_mem hEntry)
  exact bne_iff_ne.mpr hOther

end TextMate
