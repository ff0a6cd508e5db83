import Mathlib.Data.List.Dedup
import TextMate.Proofs.Import.Reach

/-
  This file counts what an import makes of a captures object.

  Keys that are written differently may name the same group,
  and then the rule of the last of them counts.  So there is one
  capture for each group that is named by an entry with a rule,
  and all other entries are reported.  An entry is lost without
  a report just if a later one names its group again.

  Main declarations:
    * `Captures.length_ofList`
    * `Import.namedGroups`
    * `Document.lost_of_reaches`
    * `Document.ReachesCaptures`
    * `Document.GivesCaptures`
    * `length_importCaptures`
-/

namespace TextMate

------------------------------------------------------------
-- Captures of Lists
------------------------------------------------------------

namespace Captures

/- An insertion adds an index and keeps all others. -/
theorem mem_indexes_insert_iff
    {index other : UInt32}
    {rule : Rule}
    {captures : Captures} :
    other ∈ (captures.insert index rule).map Prod.fst ↔
      other = index ∨ other ∈ captures.map Prod.fst := by
  induction captures with
  | nil => simp [insert]
  | cons first rest ih =>
      rcases first with ⟨present, old⟩
      rw [insert]
      split
      · simp
      · split
        · rename_i hSame
          simp [hSame]
        · rw [List.map_cons, List.mem_cons, ih, List.map_cons,
            List.mem_cons, or_left_comm]

/- Captures made from a list have the indexes of the list. -/
theorem mem_indexes_ofList_iff
    {index : UInt32}
    (entries : List (UInt32 × Rule)) :
    index ∈ (ofList entries).map Prod.fst ↔
      index ∈ entries.map Prod.fst := by
  have hFold :
      ∀ captures : Captures,
        index ∈ (entries.foldl
            (fun captures entry =>
              captures.insert entry.1 entry.2)
            captures).map Prod.fst ↔
          index ∈ captures.map Prod.fst ∨
            index ∈ entries.map Prod.fst := by
    induction entries with
    | nil => simp
    | cons entry entries ih =>
        intro captures
        rw [List.foldl_cons, ih, mem_indexes_insert_iff,
          List.map_cons, List.mem_cons, or_left_comm, or_assoc]
  have hAll := hFold []
  rw [List.map_nil] at hAll
  exact hAll.trans (or_iff_right List.not_mem_nil)

/- Captures made from a list have one entry for each index. -/
theorem length_ofList
    (entries : List (UInt32 × Rule)) :
    (ofList entries).length =
      (entries.map Prod.fst).dedup.length := by
  have hDistinct : ((ofList entries).map Prod.fst).Nodup :=
    List.pairwise_map.mpr
      ((ascending_ofList entries).imp UInt32.ne_of_lt)
  have hSame :
      ((ofList entries).map Prod.fst).Perm
        (entries.map Prod.fst).dedup := by
    rw [List.perm_ext_iff_of_nodup hDistinct
      (List.nodup_dedup _)]
    intro index
    rw [mem_indexes_ofList_iff, List.mem_dedup]
  rw [← hSame.length_eq, List.length_map]

end Captures

------------------------------------------------------------
-- Groups of Captures Objects
------------------------------------------------------------

namespace Import

/- The value of an entry is an object, which is a rule. -/
def isRule : Json.Value → Bool
  | .object _ => true
  | _ => false

/-
  The groups that are named by the entries with rules, in
  order, with a group that is named again listed again.
-/
def namedGroups
    (entries : Json.Object) : List UInt32 :=
  (entries.filter fun entry => isRule entry.2).filterMap
    fun entry => groupIndex? entry.1

variable (check : Acceptance)

/- Just the objects are kept as rules. -/
theorem isSome_kept_walkNested
    (value : Json.Value) :
    (walkNested check value).kept.isSome = isRule value := by
  cases value with
  | object members =>
      rw [walkNested_object]
      rfl
  | null | bool _ | number _ | string _ | array _ => rfl

/- An entry is at fault just if it is no object. -/
theorem foundAt_walkCaptures_entry
    {entries : Json.Object}
    (hKeys : entries.keys.Nodup)
    {entry : String × Json.Value}
    (hEntry : entry ∈ entries) :
    foundAt (walkCaptures check entries).findings
        [.member entry.1] =
      !isRule entry.2 := by
  rw [foundAt_walkCaptures check hKeys hEntry, Bool.eq_iff_iff,
    ← kept_walkNested_eq_none_iff, ← isSome_kept_walkNested check]
  simp

/- The entries with rules are kept, each under its group. -/
theorem indexes_walkCaptures
    (entries : Json.Object) :
    (walkCaptures check entries).kept.map Prod.fst =
      namedGroups entries := by
  rw [kept_walkCaptures, namedGroups, List.map_flatMap,
    List.filterMap_filter, List.filterMap_eq_flatMap_toList]
  refine List.flatMap_congr fun entry _ => ?_
  rw [← isSome_kept_walkNested check, groupEntry]
  cases groupIndex? entry.1 with
  | none => simp
  | some index =>
      cases (walkNested check entry.2).kept <;> simp

/- If all keys are indexes then each rule names a group. -/
theorem length_namedGroups
    {entries : Json.Object}
    (hIndexes :
      ∀ entry ∈ entries, (groupIndex? entry.1).isSome) :
    (namedGroups entries).length =
      entries.countP fun entry => isRule entry.2 := by
  rw [namedGroups, List.countP_eq_length_filter,
    List.filterMap_length_eq_length]
  intro entry hEntry
  exact hIndexes entry (List.mem_of_mem_filter hEntry)

end Import

------------------------------------------------------------
-- Captures Objects of Documents
------------------------------------------------------------

open Import

namespace Document

variable {check : Acceptance}
variable {document : Document}

/- A rule that is reached loses what is found in it. -/
theorem lost_of_reaches
    (hTidy : document.Tidy)
    (hErrors : document.errors check = [])
    {root : Root}
    {place : Place}
    {members : Json.Object}
    (hReaches : document.Reaches root place members)
    (rest : Place) :
    lost (document.reports check) root (place ++ rest) =
      foundAt (walkRule check members).findings rest := by
  have hParts : ((document.parts check).map Prod.fst).Nodup :=
    nodup_parts (nodup_names_of_errors hErrors)
      hTidy.extra.keys
  cases hReaches with
  | entry hEntry hInner =>
      rw [lost_entry hParts hEntry]
      exact
        foundAt_of_reaches check hInner
          (hTidy.entries _ hEntry) rest
  | pattern hItem hInner =>
      have hMember := List.fst_mem_of_mem_zipIdx hItem
      rw [lost_pattern hParts hItem]
      exact
        foundAt_of_reaches check hInner
          (hTidy.patterns _ hMember) rest

/- A rule that is reached is tidy. -/
theorem Reaches.tidy
    (hTidy : document.Tidy)
    {root : Root}
    {place : Place}
    {members : Json.Object}
    (hReaches : document.Reaches root place members) :
    (Json.Value.object members).Tidy := by
  cases hReaches with
  | entry hEntry hInner =>
      exact hInner.tidy (hTidy.entries _ hEntry)
  | pattern hItem hInner =>
      have hMember := List.fst_mem_of_mem_zipIdx hItem
      exact hInner.tidy (hTidy.patterns _ hMember)

/- The import reads an object as the captures of a rule. -/
inductive ReachesCaptures
    (document : Document)
    (root : Root) : Place → Json.Object → Prop where
  | member
      {place : Place}
      {members entries : Json.Object}
      (field : Field)
      (hReaches : document.Reaches root place members)
      (hKind : field.kind = .captures)
      (hMember : (field.key, .object entries) ∈ members) :
      document.ReachesCaptures root
        (place ++ [.member field.key]) entries

/- The import gives a rule with captures under a field. -/
inductive GivesCaptures
    (check : Acceptance)
    (document : Document)
    (root : Root) : Place → Captures → Prop where
  | field
      {place : Place}
      {members : Json.Object}
      {rule : Rule}
      {captures : Captures}
      (field : Field)
      (hReaches : document.Reaches root place members)
      (hRule :
        ∀ journal,
          ((importRule check (place.path root.path)
            members).start journal).1 = .ok rule)
      (hCaptures : rule.get? field = some (.captures captures)) :
      GivesCaptures check document root
        (place ++ [.member field.key]) captures

namespace ReachesCaptures

variable {root : Root}
variable {place : Place}
variable {entries : Json.Object}

/- The keys of captures that are reached are distinct. -/
theorem nodup_keys
    (hReached : document.ReachesCaptures root place entries)
    (hTidy : document.Tidy) :
    entries.keys.Nodup := by
  cases hReached with
  | member _ hReaches _ hMember =>
      exact ((hReaches.tidy hTidy).members _ hMember).keys

/- Captures that are reached are not what stops an import. -/
theorem errors_eq_nil
    (hReached : document.ReachesCaptures root place entries)
    (hErrors : document.errors check = [])
    (path : String) :
    (walkCaptures check entries).errors path = [] := by
  cases hReached with
  | member field hReaches hKind hMember =>
      have hRule :=
        errors_of_reaches check hErrors hReaches path
      rw [Walk.errors_eq_nil_iff] at hRule ⊢
      intro groupKey hKey
      have hOwn :
          groupKey ∈
            (walkValue check field (.object entries)).keys := by
        simp only [walkValue, hKind]
        exact hKey
      have hMet :=
        hRule _ (mem_keys_walkRule check hMember hOwn)
      exact hMet

/- An entry of captures is reported just if it is no object. -/
theorem lost_entry
    (hReached : document.ReachesCaptures root place entries)
    (hTidy : document.Tidy)
    (hErrors : document.errors check = [])
    {entry : String × Json.Value}
    (hEntry : entry ∈ entries) :
    lost (document.reports check) root
        (place ++ [.member entry.1]) =
      !isRule entry.2 := by
  have hKeys := hReached.nodup_keys hTidy
  cases hReached with
  | member field hReaches hKind hMember =>
      have hRule := hReaches.tidy hTidy
      rw [List.append_assoc,
        lost_of_reaches hTidy hErrors hReaches,
        List.singleton_append,
        foundAt_walkRule check hRule.keys hMember]
      simp only [walkValue, hKind]
      exact
        (Bool.or_false _).trans
          (foundAt_walkCaptures_entry check hKeys hEntry)

/- Captures that are not reported are given to their rule. -/
theorem givesCaptures
    (hReached : document.ReachesCaptures root place entries)
    (hTidy : document.Tidy)
    (hErrors : document.errors check = [])
    (hKept : lost (document.reports check) root place = false) :
    document.GivesCaptures check root place
      (.ofList (walkCaptures check entries).kept) := by
  cases hReached with
  | member field hReaches hKind hMember =>
      rw [lost_of_reaches hTidy hErrors hReaches] at hKept
      refine
        .field field hReaches
          (start_importRule_of_reaches check hErrors hReaches _)
          ?_
      rw [get?_kept_walkRule check (hReaches.tidy hTidy).keys]
      refine ⟨_, hMember, hKept, ?_⟩
      simp only [walkValue, hKind]
      rfl

end ReachesCaptures

end Document

/- Captures without a key at fault are imported as a list. -/
theorem start_importCaptures
    (check : Acceptance)
    {entries : Json.Object}
    {path : String}
    (hErrors : (walkCaptures check entries).errors path = [])
    (journal : Journal) :
    ((importCaptures check path [] entries).start journal).1 =
      .ok (.ofList (walkCaptures check entries).kept) := by
  have hFollows := importCaptures_follows check entries path []
  exact (hFollows.of_errors_eq_nil hErrors journal).1

/-
  Of the entries of a captures object that an import reads, the
  reported ones are lost, and the others name groups, each of
  which gets one capture.  The rule around the object has these
  captures, unless they are reported themselves.  So captures
  and reports account for all entries just if no group is named
  twice.
-/
theorem length_importCaptures
    (check : Acceptance)
    (document : Document)
    (hTidy : document.Tidy)
    (journal : Journal)
    (grammar : Grammar)
    (hRun :
      ((importGrammar check document).start journal).1 =
        .ok grammar)
    (root : Document.Root)
    (place : Place)
    (entries : Json.Object)
    (hReached : document.ReachesCaptures root place entries) :
    let reports := document.reports check
    let reported :=
      entries.countP fun entry =>
        Document.lost reports root (place ++ [.member entry.1])
    let groups := namedGroups entries
    ((importGrammar check document).start
          journal).2.diagnostics =
        journal.diagnostics ++
          reports.map Document.Report.diagnostic ∧
      ∃ captures,
        (∀ journal,
          ((importCaptures check (place.path root.path) []
            entries).start journal).1 = .ok captures) ∧
        (Document.lost reports root place = false →
          document.GivesCaptures check root place captures) ∧
        captures.length = groups.dedup.length ∧
        groups.length + reported = entries.length ∧
        (captures.length + reported = entries.length ↔
          groups.Nodup) := by
  intro reports reported groups
  rcases (importGrammar_follows check document).of_ok hRun with
    ⟨hErrors, -, hDiagnostics⟩
  have hOwnErrors :=
    hReached.errors_eq_nil hErrors (place.path root.path)
  have hIndexes :
      ∀ entry ∈ entries, (groupIndex? entry.1).isSome := by
    intro entry hEntry
    refine
      (Walk.errors_eq_nil_iff _ _).mp hOwnErrors
        ⟨[], entry.1⟩ ?_
    rw [keys_walkCaptures, List.mem_flatMap]
    exact ⟨entry, hEntry, List.mem_cons_self⟩
  have hLength :
      (Captures.ofList (walkCaptures check entries).kept).length =
        groups.dedup.length := by
    rw [Captures.length_ofList, indexes_walkCaptures]
  have hReported :
      reported =
        entries.countP fun entry => !isRule entry.2 :=
    List.countP_congr fun entry hEntry => by
      rw [hReached.lost_entry hTidy hErrors hEntry]
  have hTotal : groups.length + reported = entries.length := by
    rw [length_namedGroups hIndexes, hReported,
      List.length_eq_countP_add_countP
        (fun entry => isRule entry.2)]
    simp only [Bool.not_eq_true, Bool.decide_eq_false]
  refine
    ⟨hDiagnostics, _, start_importCaptures check hOwnErrors,
      hReached.givesCaptures hTidy hErrors, hLength, hTotal, ?_⟩
  rw [hLength, ← hTotal, Nat.add_right_cancel_iff]
  constructor
  · intro hSame
    exact
      List.dedup_eq_self.mp
        ((List.dedup_sublist groups).eq_of_length hSame)
  · intro hDistinct
    rw [hDistinct.dedup]

/-
  Captures in which two keys are written differently and name
  the same group, and a third entry is null.
-/
def doubledEntries : Json.Object :=
  [("1", .object [("name", .string "first")]),
    ("01", .object [("name", .string "second")]),
    ("2", .null)]

/- A document with these captures. -/
def doubledDocument : Document where
  name := "doubled"
  scopeName := "source.doubled"
  injectionSelector := none
  patterns :=
    [[("match", .string "(a)"),
      ("captures", .object doubledEntries)]]
  repository := []
  extra := []

theorem tidy_doubledDocument : doubledDocument.Tidy := by
  decide

theorem reachesCaptures_doubledDocument :
    doubledDocument.ReachesCaptures (.pattern 0)
      [.member "captures"] doubledEntries := by
  have hMember :
      (Field.captures.key, .object doubledEntries) ∈
        [("match", Json.Value.string "(a)"),
          ("captures", .object doubledEntries)] :=
    List.mem_cons_of_mem _ List.mem_cons_self
  have hReached :
      doubledDocument.ReachesCaptures (.pattern 0)
        ([] ++ [Step.member Field.captures.key])
        doubledEntries :=
    .member .captures (.pattern List.mem_cons_self .self) rfl
      hMember
  exact hReached

/- Two rules for one group make one capture. -/
theorem length_importCaptures_doubledDocument :
    let check : Acceptance := fun _ => none
    let path :=
      Place.path (Document.Root.pattern 0).path
        [.member "captures"]
    namedGroups doubledEntries = [1, 1] ∧
      ∃ captures,
        (∀ journal,
          ((importCaptures check path [] doubledEntries).start
            journal).1 = .ok captures) ∧
        captures.length = 1 := by
  intro check path
  have hRun :
      ((importGrammar check doubledDocument).start
          Journal.empty).1 =
        .ok (doubledDocument.kept check) := by
    rfl
  have hGroups : namedGroups doubledEntries = [1, 1] := by
    decide
  rcases
    length_importCaptures check doubledDocument
      tidy_doubledDocument Journal.empty _ hRun _ _ _
      reachesCaptures_doubledDocument
    with ⟨-, captures, hCaptures, -, hLength, -⟩
  rw [hGroups] at hLength
  exact ⟨hGroups, captures, hCaptures, hLength⟩

/-
  So captures and reports do not account for all entries: one
  of the two rules is lost without a report.
-/
theorem doubledDocument_loses_entry :
    let check : Acceptance := fun _ => none
    let outcome :=
      (importGrammar check doubledDocument).start .empty
    let captures :=
      (importCaptures check "patterns[0].captures" []
        doubledEntries).start .empty
    doubledDocument.Tidy ∧
      doubledDocument.ReachesCaptures (.pattern 0)
        [.member "captures"] doubledEntries ∧
      outcome.1.isOk ∧
      outcome.2.diagnostics.map Diagnostic.path =
        ["patterns[0].captures.2"] ∧
      (captures.1.toOption.map List.length) = some 1 ∧
      1 + outcome.2.diagnostics.length <
        doubledEntries.length := by
  refine
    ⟨tidy_doubledDocument, reachesCaptures_doubledDocument, ?_⟩
  decide +kernel

end TextMate
