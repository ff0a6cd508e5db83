import TextMate.Json.Reader
import TextMate.Proofs.Json.Within

/-
  This file proves that a reader stays within the limit on
  nesting and gives no object a key twice.

  Each reader is taken apart once, into what it can have read.
  The readers of values, items and members call each other on
  shorter and shorter texts, and so do the theorems on them.

  Main declarations:
    * `Json.readValue_cases`
    * `Json.readItems_cases`
    * `Json.readFields_cases`
    * `Json.within_of_readValue`
    * `Json.within_of_readObject`
-/

namespace TextMate

namespace Json

------------------------------------------------------------
-- Insertion
------------------------------------------------------------

namespace Object

/- The members after an insertion are old ones or the new one. -/
theorem mem_insert
    {key : String}
    {value : Value}
    {members : Object}
    {member : String × Value}
    (hMember : member ∈ Object.insert key value members) :
    member = (key, value) ∨ member ∈ members := by
  induction members with
  | nil => exact .inl (List.mem_singleton.mp hMember)
  | cons other rest ih =>
      rcases other with ⟨name, old⟩
      rw [Object.insert] at hMember
      by_cases hKey : name = key
      · rw [if_pos hKey, List.mem_cons] at hMember
        rcases hMember with rfl | hRest
        · exact .inl (by rw [hKey])
        · exact .inr (List.mem_cons_of_mem _ hRest)
      · rw [if_neg hKey, List.mem_cons] at hMember
        rcases hMember with rfl | hRest
        · exact .inr List.mem_cons_self
        · exact (ih hRest).imp_right (List.mem_cons_of_mem _)

/- The keys after an insertion are old ones or the new one. -/
theorem mem_keys_insert
    {key : String}
    {value : Value}
    {members : Object}
    {name : String}
    (hName : name ∈ (Object.insert key value members).keys) :
    name = key ∨ name ∈ members.keys := by
  rcases List.mem_map.mp hName with ⟨member, hMember, rfl⟩
  rcases mem_insert hMember with rfl | hOld
  · exact .inl rfl
  · exact .inr (List.mem_map_of_mem hOld)

/- The key that is inserted is there, with all that were. -/
theorem mem_keys_insert_iff
    (key : String)
    (value : Value)
    (members : Object)
    (name : String) :
    name ∈ (Object.insert key value members).keys ↔
      name = key ∨ name ∈ members.keys := by
  refine ⟨mem_keys_insert, ?_⟩
  induction members with
  | nil => simp [Object.insert, Object.keys]
  | cons other rest ih =>
      rcases other with ⟨present, old⟩
      rw [Object.insert]
      by_cases hKey : present = key
      · rw [if_pos hKey, Object.keys, List.map_cons,
          List.mem_cons, Object.keys, List.map_cons,
          List.mem_cons]
        exact fun hName =>
          hName.elim (fun hSame => Or.inl (hSame.trans hKey.symm))
            id
      · rw [if_neg hKey, Object.keys, List.map_cons,
          List.mem_cons, Object.keys, List.map_cons,
          List.mem_cons]
        exact fun hName =>
          hName.elim (fun hSame => Or.inr (ih (Or.inl hSame)))
            (Or.imp_right fun hOld => ih (Or.inr hOld))

/- An insertion gives no object a key twice. -/
theorem nodup_keys_insert
    (key : String)
    (value : Value)
    {members : Object}
    (hKeys : members.keys.Nodup) :
    (Object.insert key value members).keys.Nodup := by
  induction members with
  | nil => exact List.nodup_singleton key
  | cons other rest ih =>
      rcases other with ⟨name, old⟩
      rw [Object.keys, List.map_cons, List.nodup_cons] at hKeys
      rw [Object.insert]
      by_cases hKey : name = key
      · rw [if_pos hKey, Object.keys, List.map_cons,
          List.nodup_cons]
        exact hKeys
      · rw [if_neg hKey, Object.keys, List.map_cons,
          List.nodup_cons]
        refine ⟨fun hName => ?_, ih hKeys.2⟩
        rcases mem_keys_insert hName with hSame | hOld
        · exact hKey hSame
        · exact hKeys.1 hOld

end Object

------------------------------------------------------------
-- What Was Read
------------------------------------------------------------

/- What is read is a scalar, or items or members in brackets. -/
theorem readValue_cases
    {depth : Nat}
    {text : List Char}
    {value : Value}
    {rest : Rest text}
    (hRead : readValue depth text = .ok (value, rest)) :
    (∃ scalar : Scalar, value = scalar.value) ∨
      (∃ inner items last,
        inner.length < text.length ∧ 1 < depth ∧
          readItems (depth - 1) true inner = .ok (items, last) ∧
          value = .array items) ∨
      ∃ inner members last,
        inner.length < text.length ∧ 1 < depth ∧
          readFields (depth - 1) true [] inner =
            .ok (members, last) ∧
          value = .object members := by
  rw [readValue] at hRead
  split at hRead
  · cases hRead
  · next c inner hInner _ =>
      rw [List.length_cons] at hInner
      split at hRead
      · cases hRead
      · next scalar _ _ _ =>
          cases hRead
          exact .inl ⟨scalar, rfl⟩
      · split at hRead
        · split at hRead
          · cases hRead
          · next hDepth =>
              split at hRead
              · cases hRead
              · next items last hLast hItems =>
                  cases hRead
                  exact
                    .inr (.inl ⟨inner, items, _, by omega,
                      by omega, hItems, rfl⟩)
        · split at hRead
          · split at hRead
            · cases hRead
            · next hDepth =>
                split at hRead
                · cases hRead
                · next members last hLast hMembers =>
                    cases hRead
                    exact
                      .inr (.inr ⟨inner, members, _, by omega,
                        by omega, hMembers, rfl⟩)
          · cases hRead

/- Items are read one by one. -/
theorem readItems_cases
    {depth : Nat}
    {first : Bool}
    {text : List Char}
    {items : List Value}
    {rest : Rest text}
    (hRead : readItems depth first text = .ok (items, rest)) :
    items = [] ∨
      ∃ start item,
        ∃ next : Rest start,
          ∃ others last,
            start.length ≤ text.length ∧
              readValue depth start = .ok (item, next) ∧
              readItems depth false next.val =
                .ok (others, last) ∧
              items = item :: others := by
  rw [readItems] at hRead
  split at hRead
  · cases hRead
  · cases hRead
    exact .inl rfl
  · next start hStart _ =>
      split at hRead
      · cases hRead
      · next item next hNext hItem =>
          split at hRead
          · cases hRead
          · next others last hLast hOthers =>
              cases hRead
              exact
                .inr ⟨start, item, ⟨next, hNext⟩, others, _,
                  hStart, hItem, hOthers, rfl⟩

/- Members are read one by one and added to those before. -/
theorem readFields_cases
    {depth : Nat}
    {first : Bool}
    {before : Object}
    {text : List Char}
    {members : Object}
    {rest : Rest text}
    (hRead :
      readFields depth first before text =
        .ok (members, rest)) :
    members = before ∨
      ∃ start key value,
        ∃ next : Rest start,
          ∃ last,
            start.length ≤ text.length ∧
              readValue depth start = .ok (value, next) ∧
              readFields depth false
                  (Object.insert key value before) next.val =
                .ok (members, last) := by
  rw [readFields] at hRead
  split at hRead
  · cases hRead
  · cases hRead
    exact .inl rfl
  · next key rest hRest _ =>
      split at hRead
      · cases hRead
      · next start hStart _ =>
          split at hRead
          · cases hRead
          · next value next hNext hValue =>
              split at hRead
              · cases hRead
              · next others last hLast hOthers =>
                  cases hRead
                  exact
                    .inr ⟨start, key, value, ⟨next, hNext⟩, _,
                      by omega, hValue, hOthers⟩

/- A text shrinks when a value is read from it. -/
theorem Rest.length_lt
    {text : List Char}
    (rest : Rest text) :
    rest.val.length < text.length :=
  rest.property

------------------------------------------------------------
-- Within the Limit
------------------------------------------------------------

/- What is read is within the depth it is read at. -/
mutual

theorem within_of_readValue
    {depth : Nat}
    {text : List Char}
    {value : Value}
    {rest : Rest text}
    (hRead : readValue depth text = .ok (value, rest)) :
    value.Within Number.Any depth := by
  rcases readValue_cases hRead with
    ⟨scalar, rfl⟩ |
    ⟨inner, items, last, hInner, hDepth, hItems, rfl⟩ |
    ⟨inner, members, last, hInner, hDepth, hMembers, rfl⟩
  · cases scalar with
    | null => exact .null
    | bool value => exact .bool value
    | number value => exact .number trivial
    | string value => exact .string value
  · exact .array hDepth (within_of_readItems hItems)
  · have hObject :=
      within_of_readFields hMembers List.nodup_nil nofun
    exact .object hDepth hObject.1 hObject.2
termination_by 2 * text.length

theorem within_of_readItems
    {depth : Nat}
    {first : Bool}
    {text : List Char}
    {items : List Value}
    {rest : Rest text}
    (hRead : readItems depth first text = .ok (items, rest)) :
    ∀ item ∈ items, item.Within Number.Any depth := by
  rcases readItems_cases hRead with
    rfl |
    ⟨start, item, next, others, last, hStart, hItem, hOthers,
      rfl⟩
  · exact nofun
  · have hShorter := next.length_lt
    intro other hOther
    rcases List.mem_cons.mp hOther with rfl | hOther
    · exact within_of_readValue hItem
    · exact within_of_readItems hOthers other hOther
termination_by 2 * text.length + 1

theorem within_of_readFields
    {depth : Nat}
    {first : Bool}
    {before : Object}
    {text : List Char}
    {members : Object}
    {rest : Rest text}
    (hRead :
      readFields depth first before text =
        .ok (members, rest))
    (hKeys : before.keys.Nodup)
    (hBefore :
      ∀ member ∈ before,
        member.2.Within Number.Any depth) :
    members.keys.Nodup ∧
      ∀ member ∈ members,
        member.2.Within Number.Any depth := by
  rcases readFields_cases hRead with
    rfl |
    ⟨start, key, value, next, last, hStart, hValue, hMembers⟩
  · exact ⟨hKeys, hBefore⟩
  · have hShorter := next.length_lt
    have hWithin := within_of_readValue hValue
    refine
      within_of_readFields hMembers
        (Object.nodup_keys_insert key value hKeys) ?_
    intro member hMember
    rcases Object.mem_insert hMember with rfl | hOld
    · exact hWithin
    · exact hBefore member hOld
termination_by 2 * text.length + 1

end

/- An object is within the depth it is read at. -/
theorem within_of_readObject
    {depth : Nat}
    {text : List Char}
    {members : Object}
    {rest : Rest text}
    (hRead : readObject depth text = .ok (members, rest)) :
    (Value.object members).Within Number.Any depth := by
  rw [readObject] at hRead
  split at hRead
  · cases hRead
  · split at hRead
    · split at hRead
      · cases hRead
      · next hDepth =>
          split at hRead
          · cases hRead
          · next members _ _ hMembers =>
              cases hRead
              have hObject :=
                within_of_readFields hMembers List.nodup_nil
                  nofun
              exact
                .object (by omega) hObject.1 hObject.2
    · cases hRead

end Json

end TextMate
