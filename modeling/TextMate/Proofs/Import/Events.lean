import TextMate.Proofs.Import.Groups

/-
  This file proves at what an import of a document stops.

  Two kinds of events can stop it: the name of a repository
  entry, if it is used before, and a captures key, if it names
  no group.  The events of a document are listed in walking
  order without regard to patterns and to values of a wrong
  type, and the import fails with the error of the first event
  that has one.

  Main declarations:
    * `Import.keysOfMembers`
    * `Import.ReachesCaptures`
    * `Import.mem_keysOfMembers_iff`
    * `Document.Event`
    * `Document.events`
    * `Document.errors_eq_filterMap`
    * `importGrammar_stops_first`
-/

namespace TextMate

namespace Import

------------------------------------------------------------
-- Captures Keys in Walking Order
------------------------------------------------------------

/-
  The captures keys that the import of the members of a rule
  comes to, with the places of their objects.  A key comes
  before those in its value.
-/
mutual

def keysOfMembers : List (String × Json.Value) → List GroupKey
  | [] => []
  | (key, value) :: rest =>
      match Field.ofKey? key with
      | none => keysOfMembers rest
      | some field =>
          (keysOfValue field value).map
              (GroupKey.below (.member key)) ++
            keysOfMembers rest
termination_by structural x => x

/- The captures keys in the value of a field. -/
def keysOfValue
    (field : Field) : Json.Value → List GroupKey
  | .object members =>
      match field.kind with
      | .captures => keysOfCaptures members
      | _ => []
  | .array items =>
      match field.kind with
      | .children => keysOfItems 0 items
      | _ => []
  | .null | .bool _ | .number _ | .string _ => []
termination_by structural x => x

/- The captures keys of captures, and those in their rules. -/
def keysOfCaptures : List (String × Json.Value) → List GroupKey
  | [] => []
  | (key, value) :: rest =>
      ⟨[], key⟩ ::
        ((keysOfNested value).map
            (GroupKey.below (.member key)) ++
          keysOfCaptures rest)
termination_by structural x => x

/- The captures keys in items, from a position on. -/
def keysOfItems
    (position : Nat) : List Json.Value → List GroupKey
  | [] => []
  | value :: rest =>
      (keysOfNested value).map
          (GroupKey.below (.item position)) ++
        keysOfItems (position + 1) rest
termination_by structural x => x

/- The captures keys in a nested rule, if it is an object. -/
def keysOfNested : Json.Value → List GroupKey
  | .object members => keysOfMembers members
  | .null | .bool _ | .number _ | .string _ | .array _ => []
termination_by structural x => x

end

/- A scalar holds no captures key. -/
theorem keys_walkScalar
    (field : Field) :
    (walkScalar field).keys = [] := by
  unfold walkScalar
  cases field.kind <;> rfl

/-
  A walk meets these keys, whichever patterns it accepts.
-/
mutual

theorem keys_walkMembers_eq
    (check : Acceptance) :
    ∀ members : List (String × Json.Value),
      (walkMembers check members).keys = keysOfMembers members
  | [] => rfl
  | (key, value) :: rest => by
      have hRest := keys_walkMembers_eq check rest
      rw [walkMembers, keysOfMembers]
      cases Field.ofKey? key with
      | none => exact hRest
      | some field =>
          have hValue := keys_walkValue_eq check value field
          simp only [Walk.join, Walk.below, hValue, hRest]

theorem keys_walkValue_eq
    (check : Acceptance) :
    ∀ (value : Json.Value)
      (field : Field),
      (walkValue check field value).keys =
        keysOfValue field value
  | .null, field => keys_walkScalar field
  | .bool _, field => keys_walkScalar field
  | .number _, field => keys_walkScalar field
  | .string text, field => keys_walkText check field text
  | .array items, field => by
      have hItems := keys_walkItems_eq check items 0
      have hScalar := keys_walkScalar field
      rw [walkValue, keysOfValue]
      cases field.kind with
      | children => exact hItems
      | pattern | label | captures => exact hScalar
  | .object members, field => by
      have hCaptures := keys_walkCaptures_eq check members
      have hScalar := keys_walkScalar field
      rw [walkValue, keysOfValue]
      cases field.kind with
      | captures => exact hCaptures
      | pattern | label | children => exact hScalar

theorem keys_walkCaptures_eq
    (check : Acceptance) :
    ∀ members : List (String × Json.Value),
      (walkCaptures check members).keys = keysOfCaptures members
  | [] => rfl
  | (key, value) :: rest => by
      have hRest := keys_walkCaptures_eq check rest
      have hValue := keys_walkNested_eq check value
      rw [walkCaptures, keysOfCaptures]
      simp only [Walk.meet, Walk.join, Walk.below, hValue, hRest]

theorem keys_walkItems_eq
    (check : Acceptance) :
    ∀ (items : List Json.Value)
      (position : Nat),
      (walkItems check position items).keys =
        keysOfItems position items
  | [], _ => rfl
  | value :: rest, position => by
      have hRest := keys_walkItems_eq check rest (position + 1)
      have hValue := keys_walkNested_eq check value
      rw [walkItems, keysOfItems]
      simp only [Walk.join, Walk.below, hValue, hRest]

theorem keys_walkNested_eq
    (check : Acceptance) :
    ∀ value : Json.Value,
      (walkNested check value).keys = keysOfNested value
  | .object members => by
      have hMembers := keys_walkMembers_eq check members
      rw [walkNested, keysOfNested, ← hMembers]
      simp only [Walk.join, keys_settled, List.append_nil]
  | .null => rfl
  | .bool _ => rfl
  | .number _ => rfl
  | .string _ => rfl
  | .array _ => rfl

end

/- A walk over a rule meets the keys of its members. -/
theorem keys_walkRule_eq
    (check : Acceptance)
    (members : Json.Object) :
    (walkRule check members).keys = keysOfMembers members := by
  rw [walkRule, ← keys_walkMembers_eq check]
  simp only [Walk.join, keys_settled, List.append_nil]

------------------------------------------------------------
-- Captures Objects That Are Reached
------------------------------------------------------------

/- The import of a rule reads an object as captures. -/
inductive ReachesCaptures
    (members : Json.Object) : Place → Json.Object → Prop where
  | member
      {place : Place}
      {rule entries : Json.Object}
      (field : Field)
      (hReaches : Reaches members place rule)
      (hKind : field.kind = .captures)
      (hMember : (field.key, .object entries) ∈ rule) :
      ReachesCaptures members (place ++ [.member field.key])
        entries

/- Captures in a rule that a field holds are reached. -/
theorem ReachesCaptures.nested
    {members inner entries : Json.Object}
    {field : Field}
    {value : Json.Value}
    {step : Step}
    {place : Place}
    (hMember : (field.key, value) ∈ members)
    (hHolds : HoldsRule field value step inner)
    (hReached : ReachesCaptures inner place entries) :
    ReachesCaptures members (.member field.key :: step :: place)
      entries := by
  cases hReached with
  | member other hReaches hKind hEntries =>
      exact
        .member other (.nested hMember hHolds hReaches) hKind
          hEntries

/- A key in a value is that of its captures, or nested in it. -/
theorem captures_or_holdsRule_of_mem_keys
    (check : Acceptance)
    {field : Field}
    {value : Json.Value}
    {groupKey : GroupKey}
    (hKey : groupKey ∈ (walkValue check field value).keys) :
    (∃ entries : Json.Object, field.kind = .captures ∧
        value = .object entries ∧ groupKey.place = [] ∧
        groupKey.key ∈ entries.keys) ∨
      ∃ step inner nested, HoldsRule field value step inner ∧
        nested ∈ (walkRule check inner).keys ∧
        groupKey = nested.below step := by
  have hNested :
      ∀ value nested, nested ∈ (walkNested check value).keys →
        ∃ inner, value = .object inner ∧
          nested ∈ (walkRule check inner).keys := by
    intro value nested hMember
    cases value with
    | object inner => exact ⟨inner, rfl, hMember⟩
    | null | bool _ | number _ | string _ | array _ =>
        exact absurd hMember List.not_mem_nil
  cases value with
  | null | bool _ | number _ =>
      rw [walkValue, keys_walkScalar] at hKey
      cases hKey
  | string text =>
      rw [walkValue, keys_walkText] at hKey
      cases hKey
  | array items =>
      cases hKind : field.kind with
      | pattern | label | captures =>
          simp only [walkValue, hKind, keys_walkScalar] at hKey
          cases hKey
      | children =>
          simp only [walkValue, hKind, Walk.map,
            keys_walkItems, List.mem_flatMap] at hKey
          rcases hKey with ⟨⟨item, position⟩, hItem, hBelow⟩
          rcases List.mem_map.mp hBelow with
            ⟨nested, hMember, rfl⟩
          rcases hNested _ _ hMember with ⟨inner, rfl, hInner⟩
          exact
            Or.inr
              ⟨_, inner, nested, .item hKind hItem, hInner, rfl⟩
  | object entries =>
      cases hKind : field.kind with
      | pattern | label | children =>
          simp only [walkValue, hKind, keys_walkScalar] at hKey
          cases hKey
      | captures =>
          simp only [walkValue, hKind, Walk.map,
            keys_walkCaptures, List.mem_flatMap] at hKey
          rcases hKey with ⟨⟨key, value⟩, hEntry, hOwn⟩
          rcases List.mem_cons.mp hOwn with rfl | hBelow
          · exact
              Or.inl
                ⟨entries, rfl, rfl, rfl,
                  List.mem_map_of_mem hEntry⟩
          · rcases List.mem_map.mp hBelow with
              ⟨nested, hMember, rfl⟩
            rcases hNested _ _ hMember with
              ⟨inner, rfl, hInner⟩
            exact
              Or.inr
                ⟨_, inner, nested, .group hKind hEntry, hInner,
                  rfl⟩

/- A key that is met is that of captures that are reached. -/
theorem exists_reachesCaptures_of_mem_keys
    (check : Acceptance)
    {members : Json.Object}
    {groupKey : GroupKey}
    (hKey : groupKey ∈ (walkRule check members).keys) :
    ∃ entries, ReachesCaptures members groupKey.place entries ∧
      groupKey.key ∈ entries.keys := by
  induction members using objectInduction
    generalizing groupKey with
  | step members ih =>
      -- The pairs that are settled last meet no key.
      have hMet : groupKey ∈ (walkMembers check members).keys := by
        rwa [keys_walkRule_eq, ← keys_walkMembers_eq check]
          at hKey
      rw [keys_walkMembers, List.mem_flatMap] at hMet
      rcases hMet with ⟨⟨key, value⟩, hMember, hOwn⟩
      unfold memberKeys at hOwn
      cases hField : Field.ofKey? key with
      | none =>
          simp only [hField] at hOwn
          cases hOwn
      | some field =>
          simp only [hField] at hOwn
          rcases Field.ofKey?_eq_some_iff.mp hField with rfl
          rcases List.mem_map.mp hOwn with ⟨own, hValue, rfl⟩
          rcases captures_or_holdsRule_of_mem_keys check hValue
            with
            ⟨entries, hKind, rfl, hPlace, hEntry⟩ |
            ⟨step, inner, nested, hHolds, hInner, rfl⟩
          · refine ⟨entries, ?_, hEntry⟩
            rw [GroupKey.below, hPlace]
            exact .member field .self hKind hMember
          · rcases ih field value step inner hMember hHolds hInner
              with ⟨entries, hReached, hEntry⟩
            exact
              ⟨entries, hReached.nested hMember hHolds, hEntry⟩

/-
  The keys that the import of a rule comes to are just those of
  the captures that it reaches.
-/
theorem mem_keysOfMembers_iff
    (members : Json.Object)
    (groupKey : GroupKey) :
    groupKey ∈ keysOfMembers members ↔
      ∃ entries, ReachesCaptures members groupKey.place entries ∧
        groupKey.key ∈ entries.keys := by
  -- Any judgement of patterns does.
  let check : Acceptance := fun _ => none
  rw [← keys_walkRule_eq check]
  constructor
  · exact exists_reachesCaptures_of_mem_keys check
  · rcases groupKey with ⟨place, key⟩
    rintro ⟨entries, hReached, hEntry⟩
    cases hReached with
    | member field hReaches hKind hMember =>
        have hOwn :
            ⟨[], key⟩ ∈
              (walkValue check field (.object entries)).keys := by
          rcases List.mem_map.mp hEntry with
            ⟨entry, hListed, rfl⟩
          simp only [walkValue, hKind, Walk.map,
            keys_walkCaptures, List.mem_flatMap]
          exact ⟨entry, hListed, List.mem_cons_self⟩
        exact
          mem_keys_of_reaches check hReaches
            (mem_keys_walkRule check hMember hOwn)

end Import

------------------------------------------------------------
-- Events of Documents
------------------------------------------------------------

open Import

namespace Document

/-
  What can stop the import of a document: the name of an entry,
  which comes behind those of the entries before it, or a
  captures key of a rule.
-/
inductive Event where
  | entryName (earlier : List String) (name : String)
  | capturesKey (root : Root) (groupKey : GroupKey)

/- The error for an event that stops an import. -/
def Event.error? : Event → Option Error
  | .entryName earlier name =>
      if name ∈ earlier then some (.repositoryCollision name)
      else none
  | .capturesKey root groupKey =>
      if IsIndexKey groupKey.key then none
      else
        some
          (.capturesKey (groupKey.place.path root.path)
            groupKey.key)

/- The events in a rule that is a part of a document. -/
def ruleEvents
    (root : Root)
    (members : Json.Object) : List Event :=
  (keysOfMembers members).map (Event.capturesKey root)

/-
  The events in repository entries that come behind others.  A
  name comes before its rule.
-/
def entryEvents
    (earlier : List String) :
    List (String × Json.Object) → List Event
  | [] => []
  | (name, members) :: rest =>
      .entryName earlier name ::
        (ruleEvents (.entry name) members ++
          entryEvents (earlier ++ [name]) rest)

/-
  The events of a document in walking order: those of its
  repository, and then those of its root rules.
-/
def events
    (document : Document) : List Event :=
  entryEvents [] document.repository ++
    document.patterns.zipIdx.flatMap fun item =>
      ruleEvents (.pattern item.2) item.1

/- The errors of a rule are those of its events. -/
theorem errors_walkRule_eq
    (check : Acceptance)
    (root : Root)
    (members : Json.Object) :
    (walkRule check members).errors root.path =
      (ruleEvents root members).filterMap Event.error? := by
  rw [Walk.errors, keys_walkRule_eq, ruleEvents,
    List.filterMap_map]
  refine List.filterMap_congr fun groupKey _ => ?_
  simp only [GroupKey.error?, isSome_groupIndex?_iff,
    Function.comp_apply, Event.error?]

/- The errors of entries are those of their events. -/
theorem entryErrors_eq_filterMap
    (check : Acceptance)
    (entries : List (String × Json.Object))
    (earlier : List String) :
    entryErrors check earlier entries =
      (entryEvents earlier entries).filterMap Event.error? := by
  induction entries generalizing earlier with
  | nil => rfl
  | cons entry rest ih =>
      rcases entry with ⟨name, members⟩
      have hRule :
          (walkRule check members).errors
              (Grammar.entryPath name) =
            (ruleEvents (.entry name) members).filterMap
              Event.error? :=
        errors_walkRule_eq check (.entry name) members
      rw [entryErrors, entryEvents, ih, hRule,
        ← List.filterMap_append, List.filterMap_cons,
        Event.error?]
      by_cases hName : name ∈ earlier
      · rw [if_pos hName, if_pos hName]
        rfl
      · rw [if_neg hName, if_neg hName]
        rfl

/- The errors of a document are those of its events. -/
theorem errors_eq_filterMap
    (check : Acceptance)
    (document : Document) :
    document.errors check =
      document.events.filterMap Event.error? := by
  rw [errors, events, List.filterMap_append,
    entryErrors_eq_filterMap, List.filterMap_flatMap]
  refine congrArg _ (List.flatMap_congr fun item _ => ?_)
  exact errors_walkRule_eq check _ item.1

------------------------------------------------------------
-- Events That Stop an Import
------------------------------------------------------------

/- Captures are reached in the rules that a document holds. -/
theorem reachesCaptures_iff
    {document : Document}
    {root : Root}
    {place : Place}
    {captures : Json.Object} :
    document.ReachesCaptures root place captures ↔
      (∃ entry ∈ document.repository, root = .entry entry.1 ∧
        Import.ReachesCaptures entry.2 place captures) ∨
      ∃ item ∈ document.patterns.zipIdx,
        root = .pattern item.2 ∧
          Import.ReachesCaptures item.1 place captures := by
  constructor
  · rintro ⟨field, hReaches, hKind, hMember⟩
    cases hReaches with
    | entry hEntry hInner =>
        exact
          Or.inl
            ⟨_, hEntry, rfl, .member field hInner hKind hMember⟩
    | pattern hItem hInner =>
        exact
          Or.inr
            ⟨_, hItem, rfl, .member field hInner hKind hMember⟩
  · rintro (⟨entry, hEntry, rfl, hInner⟩ |
      ⟨item, hItem, rfl, hInner⟩)
    · rcases hInner with ⟨field, hReaches, hKind, hMember⟩
      exact .member field (.entry hEntry hReaches) hKind hMember
    · rcases hInner with ⟨field, hReaches, hKind, hMember⟩
      exact .member field (.pattern hItem hReaches) hKind hMember

/- No event of a rule stops an import if its keys are indexes. -/
theorem forall_ruleEvents_iff
    (root : Root)
    (members : Json.Object) :
    (∀ event ∈ ruleEvents root members, event.error? = none) ↔
      ∀ place captures key,
        Import.ReachesCaptures members place captures →
          key ∈ captures.keys → IsIndexKey key := by
  have hError :
      ∀ groupKey : GroupKey,
        (Event.capturesKey root groupKey).error? = none ↔
          IsIndexKey groupKey.key := by
    intro groupKey
    simp [Event.error?]
  rw [ruleEvents, List.forall_mem_map]
  simp only [hError, mem_keysOfMembers_iff]
  constructor
  · intro hKeys place captures key hReached hKey
    exact hKeys ⟨place, key⟩ ⟨captures, hReached, hKey⟩
  · rintro hKeys groupKey ⟨captures, hReached, hKey⟩
    exact hKeys _ captures _ hReached hKey

/-
  No event of entries stops an import just if none of their
  names is used before and no captures key does.
-/
theorem forall_entryEvents_iff
    (entries : List (String × Json.Object))
    (earlier : List String) :
    (∀ event ∈ entryEvents earlier entries,
        event.error? = none) ↔
      ((entries.map Prod.fst).Nodup ∧
          ∀ name ∈ entries.map Prod.fst, name ∉ earlier) ∧
        ∀ entry ∈ entries,
          ∀ event ∈ ruleEvents (.entry entry.1) entry.2,
            event.error? = none := by
  induction entries generalizing earlier with
  | nil => simp [entryEvents]
  | cons entry rest ih =>
      rcases entry with ⟨name, members⟩
      have hName :
          (Event.entryName earlier name).error? = none ↔
            name ∉ earlier := by
        simp [Event.error?]
      rw [entryEvents, List.forall_mem_cons, hName,
        List.forall_mem_append, ih, List.forall_mem_cons,
        List.map_cons, List.nodup_cons, List.forall_mem_cons]
      constructor
      · rintro ⟨hFree, hRule, ⟨hDistinct, hLater⟩, hRest⟩
        refine
          ⟨⟨⟨?_, hDistinct⟩, hFree, fun other hOther => ?_⟩,
            hRule, hRest⟩
        · intro hAgain
          exact hLater name hAgain (by simp)
        · intro hBefore
          exact hLater other hOther (List.mem_append_left _ hBefore)
      · rintro
          ⟨⟨⟨hOnce, hDistinct⟩, hFree, hLater⟩, hRule, hRest⟩
        refine ⟨hFree, hRule, ⟨hDistinct, ?_⟩, hRest⟩
        intro other hOther hBefore
        rcases List.mem_append.mp hBefore with hEarlier | hName
        · exact hLater other hOther hEarlier
        · cases List.mem_singleton.mp hName
          exact hOnce hOther

/-
  No event stops an import just if no name is used twice and
  all captures keys that are reached name groups.
-/
theorem forall_events_iff
    (document : Document) :
    (∀ event ∈ document.events, event.error? = none) ↔
      (document.repository.map Prod.fst).Nodup ∧
        ∀ root place captures key,
          document.ReachesCaptures root place captures →
            key ∈ captures.keys → IsIndexKey key := by
  simp only [events, List.forall_mem_append,
    forall_entryEvents_iff, List.forall_mem_flatMap,
    forall_ruleEvents_iff, reachesCaptures_iff]
  constructor
  · rintro ⟨⟨⟨hDistinct, -⟩, hEntries⟩, hItems⟩
    refine ⟨hDistinct, ?_⟩
    rintro root place captures key
      (⟨entry, hEntry, -, hReached⟩ | ⟨item, hItem, -, hReached⟩)
      hKey
    · exact hEntries entry hEntry place captures key hReached hKey
    · exact hItems item hItem place captures key hReached hKey
  · rintro ⟨hDistinct, hKeys⟩
    refine ⟨⟨⟨hDistinct, fun _ _ => List.not_mem_nil⟩, ?_⟩, ?_⟩
    · intro entry hEntry place captures key hReached hKey
      exact
        hKeys _ place captures key
          (Or.inl ⟨entry, hEntry, rfl, hReached⟩) hKey
    · intro item hItem place captures key hReached hKey
      exact
        hKeys _ place captures key
          (Or.inr ⟨item, hItem, rfl, hReached⟩) hKey

end Document

/-
  An import fails just if its repository has a name twice or a
  captures key in it names no group.  It fails at the first of
  these events in walking order, whichever patterns are refused
  and whichever values have a wrong type.
-/
theorem importGrammar_stops_first
    (check : Acceptance)
    (document : Document)
    (journal : Journal) :
    let result :=
      ((importGrammar check document).start journal).1
    ((∃ error, result = .error error) ↔
        ¬(document.repository.map Prod.fst).Nodup ∨
          ∃ root place captures key,
            document.ReachesCaptures root place captures ∧
              key ∈ captures.keys ∧ ¬IsIndexKey key) ∧
      ∀ error, result = .error error ↔
        ∃ before event after,
          document.events = before ++ event :: after ∧
            (∀ earlier ∈ before, earlier.error? = none) ∧
            event.error? = some error := by
  intro result
  have hFails :
      ∀ error, result = .error error ↔
        (document.events.filterMap
          Document.Event.error?).head? = some error := by
    intro error
    rw [← Document.errors_eq_filterMap check]
    exact
      (importGrammar_follows check document).eq_error_iff
        journal error
  constructor
  · simp only [hFails]
    rw [← Option.isSome_iff_exists, List.isSome_head?,
      Ne, List.filterMap_eq_nil_iff, Document.forall_events_iff,
      not_and_or]
    simp only [not_forall, exists_prop]
  · intro error
    rw [hFails, List.head?_filterMap, List.findSome?_eq_some_iff]
    simp only [and_comm]

/-
  A refused pattern and a scalar for captures come first, then a
  key that names no group, and behind it a name for a second
  time.
-/
example :
    let check : Acceptance := fun _ => some "refused"
    let document : Document :=
      { name := "stopped"
        scopeName := "source.stopped"
        injectionSelector := none
        patterns := []
        repository :=
          [("a",
            [("match", .string "("), ("captures", .null),
              ("beginCaptures", .object [("-1", .null)])]),
            ("a", [])]
        extra := [] }
    ((importGrammar check document).start .empty).1 =
      .error (.capturesKey "repository.a.beginCaptures" "-1") := by
  rfl

end TextMate
