import TextMate.Proofs.Import.Location

/-
  This file says which nodes of a document are missing from a
  grammar, by the two alone: no import is part of it.

  A rule of the grammar stands for an object of the document if
  the fields and the rules in them that lead to it are there.
  The parts of an object for which a rule stands are its members
  and the entries and items of these, and a part is missing if
  the rule does not have it.  What is inside a part that is
  missing is not told apart from it.

  Main declarations:
    * `Import.HoldsPart`, `Import.HasPart`
    * `Import.Makes`, `Import.Stands`
    * `Import.Lacks`
    * `Import.IsUnnamed`, `Import.Replaced`
    * `Document.Stands`, `Document.Lacks`
-/

namespace TextMate

namespace Import

------------------------------------------------------------
-- Parts of Rules
------------------------------------------------------------

/-
  The value of a field has a part that has to be a rule: an
  entry of captures or an item of a list, whatever it is.
-/
inductive HoldsPart
    (field : Field) :
    Json.Value → Step → Json.Value → Prop where
  | group
      {entries : Json.Object}
      {key : String}
      {part : Json.Value}
      (hKind : field.kind = .captures)
      (hEntry : (key, part) ∈ entries) :
      HoldsPart field (.object entries) (.member key) part
  | item
      {items : List Json.Value}
      {part : Json.Value}
      {position : Nat}
      (hKind : field.kind = .children)
      (hItem : (part, position) ∈ items.zipIdx) :
      HoldsPart field (.array items) (.item position) part

/- A rule that is held is a part that is an object. -/
theorem holdsRule_iff
    {field : Field}
    {value : Json.Value}
    {step : Step}
    {members : Json.Object} :
    HoldsRule field value step members ↔
      HoldsPart field value step (.object members) := by
  constructor
  · intro hHolds
    cases hHolds with
    | group hKind hEntry => exact .group hKind hEntry
    | item hKind hItem => exact .item hKind hItem
  · intro hHolds
    cases hHolds with
    | group hKind hEntry => exact .group hKind hEntry
    | item hKind hItem => exact .item hKind hItem

/- A step leads to one part of a value. -/
theorem HoldsPart.unique
    {field : Field}
    {value part other : Json.Value}
    {step : Step}
    (hTidy : value.Tidy)
    (hPart : HoldsPart field value step part)
    (hOther : HoldsPart field value step other) :
    part = other := by
  cases hPart with
  | group _ hEntry =>
      cases hOther with
      | group _ hOther =>
          have hSame :=
            eq_of_mem_of_key_eq hTidy.keys hEntry hOther rfl
          exact congrArg Prod.snd hSame
  | item _ hItem =>
      cases hOther with
      | item _ hOther =>
          rw [List.mk_mem_zipIdx_iff_getElem?] at hItem hOther
          exact Option.some.inj (hItem.symm.trans hOther)

/- A place in a member of an object tells which one it is. -/
theorem eq_of_places
    {members : Json.Object}
    (hKeys : members.keys.Nodup)
    {field other : Field}
    {value found : Json.Value}
    (hMember : (field.key, value) ∈ members)
    (hOther : (other.key, found) ∈ members)
    {place far : Place}
    (hPlaces :
      Step.member field.key :: place =
        Step.member other.key :: far) :
    field = other ∧ value = found ∧ place = far := by
  rcases List.cons.inj hPlaces with ⟨hStep, hRest⟩
  have hKey := Step.member.inj hStep
  have hSame := eq_of_mem_of_key_eq hKeys hMember hOther hKey
  exact
    ⟨Field.key_injective hKey, congrArg Prod.snd hSame, hRest⟩

/-
  The parts of a rule: its members, and the entries and items of
  the fields among these.
-/
inductive HasPart
    (members : Json.Object) : Place → Prop where
  | member
      {key : String}
      {value : Json.Value}
      (hMember : (key, value) ∈ members) :
      HasPart members [.member key]
  | inner
      {field : Field}
      {value part : Json.Value}
      {step : Step}
      (hMember : (field.key, value) ∈ members)
      (hHolds : HoldsPart field value step part) :
      HasPart members [.member field.key, step]

------------------------------------------------------------
-- Rules for Objects
------------------------------------------------------------

/-
  A rule has another one where an object is a part of the object
  that the first is for: its field has a rule where the object
  comes to stand.
-/
inductive Makes
    (members : Json.Object)
    (rule : Rule) :
    Place → Json.Object → Rule → Prop where
  | intro
      {field : Field}
      {value : Json.Value}
      {kept : FieldValue}
      {step shown : Step}
      {inner : Json.Object}
      {made : Rule}
      (hMember : (field.key, value) ∈ members)
      (hField : rule.get? field = some kept)
      (hKeeps : KeepsRule field value step shown inner)
      (hNested : (shown, made) ∈ kept.nested) :
      Makes members rule [.member field.key, step] inner made

/- A rule stands for an object at a place, inside of another. -/
inductive Stands :
    Json.Object → Rule → Place → Json.Object → Rule → Prop where
  | self
      {members : Json.Object}
      {rule : Rule} :
      Stands members rule [] members rule
  | nested
      {members inner object : Json.Object}
      {rule made part : Rule}
      {own place : Place}
      (hMakes : Makes members rule own inner made)
      (hInner : Stands inner made place object part) :
      Stands members rule (own ++ place) object part

/- The parts that a rule has. -/
inductive ShowsPart
    (members : Json.Object)
    (rule : Rule) : Place → Prop where
  | field
      {field : Field}
      (hField : rule.has field) :
      ShowsPart members rule [.member field.key]
  | rule
      {own : Place}
      {inner : Json.Object}
      {made : Rule}
      (hMakes : Makes members rule own inner made) :
      ShowsPart members rule own

/- A part of an object is missing from the rule for it. -/
def Lacks
    (members : Json.Object)
    (rule : Rule)
    (own : Place) : Prop :=
  HasPart members own ∧ ¬ShowsPart members rule own

/- A rule has a member just if it has its field. -/
theorem showsPart_member_iff
    {members : Json.Object}
    {rule : Rule}
    {field : Field} :
    ShowsPart members rule [.member field.key] ↔
      rule.has field := by
  constructor
  · intro hShows
    generalize hOwn : [Step.member field.key] = own at hShows
    cases hShows with
    | field hField =>
        have hKey := Step.member.inj (List.cons.inj hOwn).1
        rwa [Field.key_injective hKey]
    | rule hMakes =>
        cases hMakes with
        | intro => cases (List.cons.inj hOwn).2
  · exact .field

/-
  A rule has a part of a field just if the part is kept and the
  field has a rule where it comes to stand.
-/
theorem showsPart_inner_iff
    {members : Json.Object}
    (hKeys : members.keys.Nodup)
    {rule : Rule}
    {field : Field}
    {value : Json.Value}
    (hMember : (field.key, value) ∈ members)
    {step : Step} :
    ShowsPart members rule [.member field.key, step] ↔
      ∃ kept shown inner made, rule.get? field = some kept ∧
        KeepsRule field value step shown inner ∧
          (shown, made) ∈ kept.nested := by
  constructor
  · intro hShows
    generalize hOwn :
        [Step.member field.key, step] = own at hShows
    cases hShows with
    | field _ => cases (List.cons.inj hOwn).2
    | rule hMakes =>
        cases hMakes with
        | intro hOther hField hKeeps hNested =>
            rcases eq_of_places hKeys hMember hOther hOwn with
              ⟨rfl, rfl, hStep⟩
            cases hStep
            exact ⟨_, _, _, _, hField, hKeeps, hNested⟩
  · rintro ⟨_, _, _, _, hField, hKeeps, hNested⟩
    exact .rule (.intro hMember hField hKeeps hNested)

------------------------------------------------------------
-- Parts That No Rule Has
------------------------------------------------------------

/- The key of a member names no field. -/
def IsUnnamed
    (own : Place) : Prop :=
  ∃ key, own = [.member key] ∧ Field.ofKey? key = none

/-
  A value holds a rule at a step, and what is kept of the value
  does not have it: its group is named again by a later entry.
-/
inductive ReplacesRule
    (field : Field) :
    Json.Value → Step → Json.Object → Prop where
  | group
      {before after members : Json.Object}
      {key : String}
      {index : UInt32}
      (hKind : field.kind = .captures)
      (hIndex : groupIndex? key = some index)
      (hLater : index ∈ namedGroups after) :
      ReplacesRule field
        (.object (before ++ (key, .object members) :: after))
        (.member key) members

/- A part of a rule is replaced by a later entry. -/
inductive Replaced
    (members : Json.Object) :
    Place → Json.Object → Prop where
  | intro
      {field : Field}
      {value : Json.Value}
      {step : Step}
      {inner : Json.Object}
      (hMember : (field.key, value) ∈ members)
      (hReplaces : ReplacesRule field value step inner) :
      Replaced members [.member field.key, step] inner

/- A member whose key names no field is missing. -/
theorem lacks_of_isUnnamed
    {members : Json.Object}
    {rule : Rule}
    {own : Place}
    (hPart : HasPart members own)
    (hUnnamed : IsUnnamed own) :
    Lacks members rule own := by
  refine ⟨hPart, ?_⟩
  rcases hUnnamed with ⟨key, rfl, hKey⟩
  intro hShows
  cases hShows with
  | field _ =>
      rw [Field.ofKey?_key] at hKey
      cases hKey
  | rule hMakes => cases hMakes

/- A rule that is replaced is one that is held. -/
theorem ReplacesRule.holdsRule
    {field : Field}
    {value : Json.Value}
    {step : Step}
    {members : Json.Object}
    (hReplaces : ReplacesRule field value step members) :
    HoldsRule field value step members := by
  cases hReplaces with
  | group hKind _ _ =>
      exact
        .group hKind
          (List.mem_append_right _ List.mem_cons_self)

/- A list without doubles splits in one way at a member. -/
theorem eq_of_split
    {α : Type}
    {before after first last : List α}
    {member : α}
    (hDistinct : (before ++ member :: after).Nodup)
    (hSplit :
      before ++ member :: after = first ++ member :: last) :
    after = last := by
  have hOnce :=
    List.nodup_cons.mp (List.nodup_middle.mp hDistinct)
  rw [List.mem_append, not_or] at hOnce
  exact
    ((List.append_cons_inj_of_notMem hOnce.1.1 hOnce.1.2).mp
      hSplit).2.2

/- A rule is not both kept and replaced. -/
theorem ReplacesRule.not_keepsRule
    {field : Field}
    {value : Json.Value}
    {step shown : Step}
    {members other : Json.Object}
    (hTidy : value.Tidy)
    (hReplaces : ReplacesRule field value step members) :
    ¬KeepsRule field value step shown other := by
  intro hKeeps
  have hSame :=
    (holdsRule_iff.mp hReplaces.holdsRule).unique hTidy
      (holdsRule_iff.mp hKeeps.holdsRule)
  cases Json.Value.object.inj hSame
  generalize hValue : value = same at hKeeps
  generalize hStep : step = next at hKeeps
  cases hReplaces with
  | @group before after _ key index _ hIndex hLater =>
      cases hKeeps with
      | item _ => cases hStep
      | @group first last _ next named _ hNamed hLast =>
          cases hStep
          cases hIndex.symm.trans hNamed
          have hAfter :=
            eq_of_split hTidy.keys.of_map
              (Json.Value.object.inj hValue)
          rw [hAfter] at hLater
          exact hLast hLater

/- A list splits at the position of an item. -/
theorem exists_split_of_mem_zipIdx
    {α : Type}
    {items : List α}
    {item : α}
    {position : Nat}
    (hItem : (item, position) ∈ items.zipIdx) :
    ∃ before after, items = before ++ item :: after ∧
      before.length = position := by
  rw [List.mk_mem_zipIdx_iff_getElem?] at hItem
  rcases List.getElem?_eq_some_iff.mp hItem with
    ⟨hPosition, rfl⟩
  refine
    ⟨items.take position, items.drop (position + 1), ?_, ?_⟩
  · rw [← List.drop_eq_getElem_cons hPosition,
      List.take_append_drop]
  · rw [List.length_take,
      Nat.min_eq_left (Nat.le_of_lt hPosition)]

/- A rule that is held is kept or replaced. -/
theorem HoldsRule.keepsRule_or_replacesRule
    {field : Field}
    {value : Json.Value}
    {step : Step}
    {members : Json.Object}
    (hHolds : HoldsRule field value step members)
    (hIndex :
      ∀ key, step = .member key → (groupIndex? key).isSome) :
    (∃ shown, KeepsRule field value step shown members) ∨
      ReplacesRule field value step members := by
  cases hHolds with
  | @group entries _ key hKind hEntry =>
      rcases List.append_of_mem hEntry with
        ⟨before, after, rfl⟩
      rcases Option.isSome_iff_exists.mp (hIndex key rfl) with
        ⟨index, hIndex⟩
      by_cases hLater : index ∈ namedGroups after
      · exact Or.inr (.group hKind hIndex hLater)
      · exact Or.inl ⟨_, .group hKind hIndex hLater⟩
  | item hKind hItem =>
      rcases exists_split_of_mem_zipIdx hItem with
        ⟨before, after, rfl, rfl⟩
      exact Or.inl ⟨_, .item hKind⟩

/- The part of a field that is replaced is so in its value. -/
theorem Replaced.replacesRule
    {members inner : Json.Object}
    (hKeys : members.keys.Nodup)
    {field : Field}
    {value : Json.Value}
    (hMember : (field.key, value) ∈ members)
    {step : Step}
    (hReplaced :
      Replaced members [.member field.key, step] inner) :
    ReplacesRule field value step inner := by
  generalize hOwn :
      [Step.member field.key, step] = own at hReplaced
  cases hReplaced with
  | intro hOther hReplaces =>
      rcases eq_of_places hKeys hMember hOther hOwn with
        ⟨rfl, rfl, hStep⟩
      cases hStep
      exact hReplaces

/- An entry that is replaced is a part of its rule. -/
theorem Replaced.hasPart
    {members object : Json.Object}
    {own : Place}
    (hReplaced : Replaced members own object) :
    HasPart members own := by
  cases hReplaced with
  | intro hMember hReplaces =>
      exact
        .inner hMember (holdsRule_iff.mp hReplaces.holdsRule)

/- A part that is replaced is missing. -/
theorem lacks_of_replaced
    {members object : Json.Object}
    {rule : Rule}
    {own : Place}
    (hTidy : (Json.Value.object members).Tidy)
    (hReplaced : Replaced members own object) :
    Lacks members rule own := by
  refine ⟨hReplaced.hasPart, ?_⟩
  cases hReplaced with
  | intro hMember hReplaces =>
      intro hShows
      rcases (showsPart_inner_iff hTidy.keys hMember).mp hShows
        with ⟨_, _, _, _, -, hKeeps, -⟩
      exact
        hReplaces.not_keepsRule (hTidy.members _ hMember) hKeeps

------------------------------------------------------------
-- Places of Parts
------------------------------------------------------------

/- The object of an entry that is replaced is reached. -/
theorem Replaced.reaches
    {members object : Json.Object}
    {own : Place}
    (hReplaced : Replaced members own object) :
    Reaches members own object := by
  cases hReplaced with
  | intro hMember hReplaces =>
      exact .nested hMember hReplaces.holdsRule .self

/- An object for which a rule stands is reached. -/
theorem Stands.reaches
    {members object : Json.Object}
    {rule part : Rule}
    {place : Place}
    (hStands : Stands members rule place object part) :
    Reaches members place object := by
  induction hStands with
  | self => exact .self
  | nested hMakes _ ih =>
      cases hMakes with
      | intro hMember _ hKeeps _ =>
          exact .nested hMember hKeeps.holdsRule ih

/- A part of a rule is not inside of a rule that it holds. -/
theorem HasPart.not_beyond
    {members other : Json.Object}
    {own rest last : Place}
    {first second : Step}
    (hOwn : HasPart members own)
    (hLast : HasPart other last) :
    own ≠ first :: second :: (rest ++ last) := by
  intro hPlace
  cases hOwn with
  | member _ => cases (List.cons.inj hPlace).2
  | inner _ _ =>
      have hRest := (List.cons.inj (List.cons.inj hPlace).2).2
      cases (List.append_eq_nil_iff.mp hRest.symm).2
      cases hLast

/-
  A place leads to one part of one rule.  A rule is two steps
  into the one that holds it, so no part of a rule is in
  another.
-/
theorem Reaches.unique
    {members rule other : Json.Object}
    {place far own last : Place}
    (hTidy : (Json.Value.object members).Tidy)
    (hRule : Reaches members place rule)
    (hOther : Reaches members far other)
    (hOwn : HasPart rule own)
    (hLast : HasPart other last)
    (hPlace : place ++ own = far ++ last) :
    place = far ∧ rule = other ∧ own = last := by
  induction hRule generalizing far with
  | self =>
      cases hOther with
      | self => exact ⟨rfl, rfl, hPlace⟩
      | nested => exact absurd hPlace (hOwn.not_beyond hLast)
  | nested hMember hHolds _ ih =>
      generalize hFar : far = place at hOther
      cases hOther with
      | self =>
          subst hFar
          exact absurd hPlace.symm (hLast.not_beyond hOwn)
      | nested hMore hNext hInner =>
          subst hFar
          rcases
            eq_of_places hTidy.keys hMember hMore hPlace with
            ⟨rfl, rfl, hRest⟩
          rcases List.cons.inj hRest with ⟨rfl, hInside⟩
          have hValue := hTidy.members _ hMember
          cases
            (holdsRule_iff.mp hHolds).unique hValue
              (holdsRule_iff.mp hNext)
          rcases
            ih (hHolds.tidy hValue) hInner hOwn hInside with
            ⟨rfl, rfl, rfl⟩
          exact ⟨rfl, rfl, rfl⟩

end Import

------------------------------------------------------------
-- Documents
------------------------------------------------------------

namespace Document

open Import

/-
  A rule of a grammar stands for an object of a document, at a
  place of an entry or a root rule.
-/
inductive Stands
    (document : Document)
    (grammar : Grammar) :
    Root → Place → Json.Object → Rule → Prop where
  | entry
      {name : String}
      {members object : Json.Object}
      {rule part : Rule}
      {place : Place}
      (hEntry : (name, members) ∈ document.repository)
      (hRule : (name, rule) ∈ grammar.repository.entries)
      (hInner : Import.Stands members rule place object part) :
      document.Stands grammar (.entry name) place object part
  | pattern
      {position : Nat}
      {members object : Json.Object}
      {rule part : Rule}
      {place : Place}
      (hItem : (members, position) ∈ document.patterns.zipIdx)
      (hRule : (rule, position) ∈ grammar.patterns.zipIdx)
      (hInner : Import.Stands members rule place object part) :
      document.Stands grammar (.pattern position) place object
        part

/-
  A node of a document is missing from a grammar: an entry, a
  root rule, a root field that is not modelled, or a part of an
  object for which a rule stands.
-/
inductive Lacks
    (document : Document)
    (grammar : Grammar) : Root → Place → Prop where
  | entry
      {name : String}
      {members : Json.Object}
      (hEntry : (name, members) ∈ document.repository)
      (hNone :
        ∀ rule, (name, rule) ∉ grammar.repository.entries) :
      document.Lacks grammar (.entry name) []
  | pattern
      {position : Nat}
      {members : Json.Object}
      (hItem : (members, position) ∈ document.patterns.zipIdx)
      (hNone :
        ∀ rule, (rule, position) ∉ grammar.patterns.zipIdx) :
      document.Lacks grammar (.pattern position) []
  | extra
      {key : String}
      {value : Json.Value}
      (hField : (key, value) ∈ document.extra)
      (hNone : ∀ kept, (key, kept) ∉ grammar.extra) :
      document.Lacks grammar (.extra key) []
  | part
      {root : Root}
      {place own : Place}
      {members : Json.Object}
      {rule : Rule}
      (hStands :
        document.Stands grammar root place members rule)
      (hLacks : Import.Lacks members rule own) :
      document.Lacks grammar root (place ++ own)

variable {document : Document}
variable {grammar : Grammar}

/- An object for which a rule stands is reached. -/
theorem Stands.reaches
    {root : Root}
    {place : Place}
    {members : Json.Object}
    {rule : Rule}
    (hStands :
      document.Stands grammar root place members rule) :
    document.Reaches root place members := by
  cases hStands with
  | entry hEntry _ hInner => exact .entry hEntry hInner.reaches
  | pattern hItem _ hInner =>
      exact .pattern hItem hInner.reaches

/- A place leads to one part of one rule of a document. -/
theorem Reaches.unique
    (hTidy : document.Tidy)
    (hNames : (document.repository.map Prod.fst).Nodup)
    {root : Root}
    {place far own last : Place}
    {members other : Json.Object}
    (hRule : document.Reaches root place members)
    (hOther : document.Reaches root far other)
    (hOwn : HasPart members own)
    (hLast : HasPart other last)
    (hPlace : place ++ own = far ++ last) :
    place = far ∧ members = other ∧ own = last := by
  cases hRule with
  | entry hEntry hInner =>
      cases hOther with
      | entry hSame hNext =>
          cases eq_of_mem_of_key_eq hNames hEntry hSame rfl
          exact
            hInner.unique (hTidy.entries _ hEntry) hNext hOwn
              hLast hPlace
  | pattern hItem hInner =>
      cases hOther with
      | pattern hSame hNext =>
          rw [List.mk_mem_zipIdx_iff_getElem?] at hSame
          have hMember := List.fst_mem_of_mem_zipIdx hItem
          rw [List.mk_mem_zipIdx_iff_getElem?] at hItem
          cases hItem.symm.trans hSame
          exact
            hInner.unique (hTidy.patterns _ hMember) hNext hOwn
              hLast hPlace

end Document

end TextMate
