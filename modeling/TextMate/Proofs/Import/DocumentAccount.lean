import TextMate.Proofs.Import.Account
import TextMate.Proofs.Import.DocumentWalk
import TextMate.Proofs.Import.RootFields

/-
  This file proves that the diagnostics of an import account
  for what it loses: the export of what is imported is the
  document without the nodes that are reported.

  Nodes are told apart by their places.  A root field that is
  not modelled is always reported, and lost only if it is
  reported once more because its value cannot be kept.

  Main declarations:
    * `Document.Tidy`
    * `Document.CanonicalKeys`
    * `Document.lost`
    * `Document.without`
    * `Document.kept_accounts`
    * `importGrammar_accounts`
-/

namespace TextMate

open Import

namespace Document

------------------------------------------------------------
-- Documents That Are Read
------------------------------------------------------------

/- No object of a document has a key twice. -/
structure Tidy
    (document : Document) : Prop where
  entries :
    ∀ entry ∈ document.repository,
      (Json.Value.object entry.2).Tidy
  patterns :
    ∀ members ∈ document.patterns,
      (Json.Value.object members).Tidy
  extra : (Json.Value.object document.extra).Tidy

instance : DecidablePred Document.Tidy := fun document =>
  decidable_of_iff
    ((∀ entry ∈ document.repository,
        (Json.Value.object entry.2).Tidy) ∧
      (∀ members ∈ document.patterns,
        (Json.Value.object members).Tidy) ∧
      (Json.Value.object document.extra).Tidy)
    ⟨fun ⟨hEntries, hPatterns, hExtra⟩ =>
        ⟨hEntries, hPatterns, hExtra⟩,
      fun ⟨hEntries, hPatterns, hExtra⟩ =>
        ⟨hEntries, hPatterns, hExtra⟩⟩

/-
  Each captures key that an import meets is the decimal text
  of an index.
-/
structure CanonicalKeys
    (check : Acceptance)
    (document : Document) : Prop where
  entries :
    ∀ entry ∈ document.repository,
      (walkRule check entry.2).Canonical
  patterns :
    ∀ members ∈ document.patterns,
      (walkRule check members).Canonical

------------------------------------------------------------
-- Removal of Nodes
------------------------------------------------------------

/- What is left of a root field that is not modelled. -/
def extraWithout?
    (gone : Root → Place → Bool)
    (field : String × Json.Value) :
    Option (String × Json.Value) :=
  if gone (.extra field.1) [] then none
  else
    some
      (field.1, Import.without (gone (.extra field.1)) field.2)

/-
  Remove the nodes at places from a document.  Its entries and
  root rules stay, and only what is in them can go.
-/
def without
    (gone : Root → Place → Bool)
    (document : Document) : Document :=
  { document with
    patterns :=
      document.patterns.zipIdx.map fun item =>
        withoutMembers (gone (.pattern item.2)) item.1
    repository :=
      document.repository.map fun entry =>
        (entry.1, withoutMembers (gone (.entry entry.1)) entry.2)
    extra := document.extra.filterMap (extraWithout? gone) }

/- Nothing is removed where nothing is gone. -/
theorem without_eq_self
    (document : Document) :
    document.without (fun _ _ => false) = document := by
  have hMembers :
      ∀ members : Json.Object,
        withoutMembers (fun _ => false) members = members := by
    intro members
    have hObject :=
      Import.without_eq_self (fun _ => rfl) (.object members)
    exact Json.Value.object.inj hObject
  have hExtra :
      ∀ field ∈ document.extra,
        extraWithout? (fun _ _ => false) field =
          some (id field) := by
    intro field _
    rw [extraWithout?, if_neg Bool.false_ne_true,
      Import.without_eq_self fun _ => rfl]
    rfl
  have hPatterns :
      document.patterns.zipIdx.map Prod.fst =
        document.patterns :=
    List.zipIdx_map_fst 0 document.patterns
  have hEntries :
      document.repository.map (fun entry => (entry.1, entry.2)) =
        document.repository :=
    List.map_id' document.repository
  simp only [without, hMembers,
    List.filterMap_eq_map_iff_forall_eq_some.mpr hExtra,
    List.map_id, hPatterns, hEntries]

/-
  There is a node at a place of a part of a document: inside
  of an entry or a root rule, or a root field itself.
-/
def HasNode
    (document : Document) : Root → Place → Prop
  | .entry name, place =>
      ∃ members, (name, members) ∈ document.repository ∧
        place ≠ [] ∧ Import.HasNode place (.object members)
  | .pattern position, place =>
      ∃ members,
        (members, position) ∈ document.patterns.zipIdx ∧
        place ≠ [] ∧ Import.HasNode place (.object members)
  | .extra key, place =>
      ∃ value, (key, value) ∈ document.extra ∧ place = []

/- The report only says that a root field is not modelled. -/
def Report.isNotice
    (report : Report) : Bool :=
  match report.root with
  | .extra _ => report.finding == unrecognized
  | .entry _ | .pattern _ => false

/- The reports at a place that say more than a notice. -/
def lost
    (reports : List Report)
    (root : Root)
    (place : Place) : Bool :=
  reports.any fun report =>
    report.root == root && report.finding.place == place &&
      !report.isNotice

------------------------------------------------------------
-- Reports by Part
------------------------------------------------------------

/- The parts of a document with what is found in each. -/
def parts
    (check : Acceptance)
    (document : Document) : List (Root × List Finding) :=
  (document.repository.map fun entry =>
      (.entry entry.1, (walkRule check entry.2).findings)) ++
    ((document.patterns.zipIdx.map fun item =>
        (.pattern item.2, (walkRule check item.1).findings)) ++
      document.extra.map fun field =>
        (.extra field.1,
          unrecognized ::
            match extraValue? field.2 with
            | some _ => []
            | none => [unkeepable]))

theorem reports_eq_flatMap
    (check : Acceptance)
    (document : Document) :
    document.reports check =
      (document.parts check).flatMap fun part =>
        reportsAt part.1 part.2 := by
  rw [reports, parts, List.flatMap_append, List.flatMap_append,
    List.flatMap_map, List.flatMap_map, List.flatMap_map]
  rfl

/- What is lost of a part is what is reported of it. -/
theorem lost_reports
    {check : Acceptance}
    {document : Document}
    (hParts : ((document.parts check).map Prod.fst).Nodup)
    {root : Root}
    {findings : List Finding}
    (hPart : (root, findings) ∈ document.parts check)
    (place : Place) :
    lost (document.reports check) root place =
      findings.any fun finding =>
        finding.place == place &&
          !(Report.mk root finding).isNotice := by
  rw [lost, reports_eq_flatMap, List.any_flatMap,
    Bool.eq_iff_iff, List.any_eq_true, List.any_eq_true]
  simp only [reportsAt, List.any_map, List.any_eq_true,
    Function.comp_apply, Bool.and_eq_true, beq_iff_eq]
  constructor
  · rintro ⟨part, hMember, finding, hFinding,
      ⟨hRoot, hPlace⟩, hNotice⟩
    have hSame : part = (root, findings) :=
      eq_of_mem_of_key_eq hParts hMember hPart hRoot
    subst hSame
    exact ⟨finding, hFinding, hPlace, hNotice⟩
  · rintro ⟨finding, hFinding, hPlace, hNotice⟩
    exact
      ⟨_, hPart, finding, hFinding, ⟨rfl, hPlace⟩, hNotice⟩

/- The parts are distinct if the names and the keys are. -/
theorem nodup_parts
    {check : Acceptance}
    {document : Document}
    (hNames : (document.repository.map Prod.fst).Nodup)
    (hKeys : document.extra.keys.Nodup) :
    ((document.parts check).map Prod.fst).Nodup := by
  have hEntries :=
    hNames.map (fun _ _ hEqual => Root.entry.inj hEqual :
      Function.Injective Root.entry)
  have hPositions : (document.patterns.zipIdx.map Prod.snd).Nodup := by
    rw [List.zipIdx_map_snd]
    exact List.nodup_range'
  have hPatterns :=
    hPositions.map (fun _ _ hEqual => Root.pattern.inj hEqual :
      Function.Injective Root.pattern)
  have hExtra :=
    hKeys.map (fun _ _ hEqual => Root.extra.inj hEqual :
      Function.Injective Root.extra)
  rw [Json.Object.keys] at hExtra
  rw [List.map_map] at hEntries hPatterns hExtra
  rw [parts, List.map_append, List.map_append, List.map_map,
    List.map_map, List.map_map, List.nodup_append,
    List.nodup_append]
  refine ⟨hEntries, ⟨hPatterns, hExtra, ?_⟩, ?_⟩
  · intro _ hPattern _ hOther
    rcases List.mem_map.mp hPattern with ⟨_, -, rfl⟩
    rcases List.mem_map.mp hOther with ⟨_, -, rfl⟩
    exact Root.noConfusion
  · intro _ hEntry _ hOther
    rcases List.mem_map.mp hEntry with ⟨_, -, rfl⟩
    rcases List.mem_append.mp hOther with hPattern | hField
    · rcases List.mem_map.mp hPattern with ⟨_, -, rfl⟩
      exact Root.noConfusion
    · rcases List.mem_map.mp hField with ⟨_, -, rfl⟩
      exact Root.noConfusion

section Parts

variable {check : Acceptance}
variable {document : Document}

/- A rule of the repository loses what is found in it. -/
theorem lost_entry
    (hParts : ((document.parts check).map Prod.fst).Nodup)
    {entry : String × Json.Object}
    (hEntry : entry ∈ document.repository) :
    lost (document.reports check) (.entry entry.1) =
      foundAt (walkRule check entry.2).findings := by
  funext place
  have hPart :
      (Root.entry entry.1, (walkRule check entry.2).findings) ∈
        document.parts check :=
    List.mem_append_left _ (List.mem_map.mpr ⟨_, hEntry, rfl⟩)
  rw [lost_reports hParts hPart]
  simp [Report.isNotice, foundAt]

/- A root rule loses what is found in it. -/
theorem lost_pattern
    (hParts : ((document.parts check).map Prod.fst).Nodup)
    {item : Json.Object × Nat}
    (hItem : item ∈ document.patterns.zipIdx) :
    lost (document.reports check) (.pattern item.2) =
      foundAt (walkRule check item.1).findings := by
  funext place
  have hPart :
      (Root.pattern item.2, (walkRule check item.1).findings) ∈
        document.parts check :=
    List.mem_append_right _
      (List.mem_append_left _
        (List.mem_map.mpr ⟨_, hItem, rfl⟩))
  rw [lost_reports hParts hPart]
  simp [Report.isNotice, foundAt]

/- A root field that is not modelled goes if it has no value. -/
theorem lost_extra
    (hParts : ((document.parts check).map Prod.fst).Nodup)
    {field : String × Json.Value}
    (hField : field ∈ document.extra)
    (place : Place) :
    lost (document.reports check) (.extra field.1) place =
      (place.isEmpty && (extraValue? field.2).isNone) := by
  have hPart :
      (Root.extra field.1,
          unrecognized ::
            match extraValue? field.2 with
            | some _ => []
            | none => [unkeepable]) ∈
        document.parts check :=
    List.mem_append_right _
      (List.mem_append_right _
        (List.mem_map.mpr ⟨_, hField, rfl⟩))
  rw [lost_reports hParts hPart]
  cases extraValue? field.2 <;>
    simp [Report.isNotice, unrecognized, unkeepable]

/- Lists agree if their items do, one by one. -/
theorem sameList_of_forall₂
    {α : Type}
    {same : α → α → Bool}
    {first second : List α}
    (hItems :
      List.Forall₂ (fun x y => same x y = true) first second) :
    sameList same first second = true := by
  induction hItems with
  | nil => rfl
  | cons hItem _ ih => rw [sameList, hItem, ih]; rfl

/- A rule that is kept is the rule without what is found. -/
theorem same_kept_rule
    {members : Json.Object}
    (hTidy : (Json.Value.object members).Tidy)
    (hCanonical : (walkRule check members).Canonical) :
    Json.Object.same (walkRule check members).kept.toObject
        (withoutMembers
          (foundAt (walkRule check members).findings)
          members) =
      true := by
  have hAccounts :=
    (walk_accounts check hTidy).2 hCanonical
  exact hAccounts _ rfl

/- The keys of the root fields that are kept are distinct. -/
theorem nodup_keys_keptExtra
    {extra : Json.Object}
    (hKeys : extra.keys.Nodup) :
    ((extra.filterMap keptExtra?).map Prod.fst).Nodup := by
  rw [Json.Object.keys, List.nodup_iff_pairwise_ne,
    List.pairwise_map] at hKeys
  rw [List.nodup_iff_pairwise_ne, List.pairwise_map,
    List.pairwise_filterMap]
  refine hKeys.imp ?_
  intro x y hDistinct field hField other hOther
  simp only [keptExtra?, Option.map_eq_some_iff]
    at hField hOther
  rcases hField with ⟨_, -, rfl⟩
  rcases hOther with ⟨_, -, rfl⟩
  exact hDistinct

/- The root fields that are kept are those that are not lost. -/
theorem same_kept_extra
    (hParts : ((document.parts check).map Prod.fst).Nodup)
    (hKeys : document.extra.keys.Nodup) :
    Json.Object.same
        (Grammar.extraObject
          (document.extra.filterMap keptExtra?))
        (document.extra.filterMap
          (extraWithout? (lost (document.reports check)))) =
      true := by
  have hDistinct :
      ((document.extra.filterMap keptExtra?).map
        Prod.fst).Nodup :=
    nodup_keys_keptExtra hKeys
  have hLeft :
      document.extra.filterMap
          (extraWithout? (lost (document.reports check))) =
        (document.extra.filterMap keptExtra?).map fun field =>
          (field.1, field.2.toValue) := by
    rw [List.map_filterMap]
    refine List.filterMap_congr fun field hField => ?_
    have hLost := lost_extra hParts hField
    rw [extraWithout?, hLost, keptExtra?]
    cases hValue : extraValue? field.2 with
    | none => rfl
    | some kept =>
        have hStays :
            ∀ place,
              lost (document.reports check) (.extra field.1)
                  place =
                false := by
          intro place
          rw [hLost, hValue]
          exact Bool.and_false _
        rw [Import.without_eq_self hStays,
          ← toValue_of_extraValue? hValue]
        rfl
  have hKeysLeft :
      (Json.Object.keys
        ((document.extra.filterMap keptExtra?).map fun field =>
          (field.1, field.2.toValue))).Nodup := by
    rw [Json.Object.keys, List.map_map]
    exact hDistinct
  rw [Grammar.extraObject_eq_map hDistinct, hLeft]
  apply Json.Object.same_of_forall hKeysLeft hKeysLeft
  · intro member hMember
    refine ⟨member.2, hMember, ?_⟩
    rcases List.mem_map.mp hMember with ⟨field, -, rfl⟩
    exact field.2.same_toValue
  · exact fun key hKey => hKey

/-
  The export of what is kept of a document is the document
  without what is lost.
-/
theorem kept_accounts
    (hTidy : document.Tidy)
    (hCanonical : document.CanonicalKeys check)
    (hNames : (document.repository.map Prod.fst).Nodup) :
    (document.kept check).toDocument.same
        (document.without (lost (document.reports check))) =
      true := by
  have hParts : ((document.parts check).map Prod.fst).Nodup :=
    nodup_parts hNames hTidy.extra.keys
  have hPatterns :
      sameList Json.Object.same
          (document.kept check).toDocument.patterns
          (document.without
            (lost (document.reports check))).patterns =
        true := by
    apply sameList_of_forall₂
    have hWritten :
        (document.kept check).toDocument.patterns =
          document.patterns.zipIdx.map fun item =>
            (walkRule check item.1).kept.toObject := by
      show (document.patterns.map fun members =>
          (walkRule check members).kept).map Rule.toObject = _
      conv =>
        lhs
        rw [← List.zipIdx_map_fst 0 document.patterns,
          List.map_map, List.map_map]
      rfl
    rw [hWritten, without, List.forall₂_map_left_iff,
      List.forall₂_map_right_iff, List.forall₂_same]
    intro item hItem
    have hMembers := List.fst_mem_of_mem_zipIdx hItem
    rw [lost_pattern hParts hItem]
    exact same_kept_rule (hTidy.patterns item.1 hMembers)
      (hCanonical.patterns item.1 hMembers)
  have hEntries :
      sameList
          (fun x y => x.1 == y.1 && Json.Object.same x.2 y.2)
          (document.kept check).toDocument.repository
          (document.without
            (lost (document.reports check))).repository =
        true := by
    apply sameList_of_forall₂
    have hWritten :
        (document.kept check).toDocument.repository =
          document.repository.map fun entry =>
            (entry.1, (walkRule check entry.2).kept.toObject) := by
      show (document.repository.map fun entry =>
          (entry.1, (walkRule check entry.2).kept)).map
            (fun entry => (entry.1, entry.2.toObject)) = _
      rw [List.map_map]
      rfl
    rw [hWritten, without, List.forall₂_map_left_iff,
      List.forall₂_map_right_iff, List.forall₂_same]
    intro entry hEntry
    rw [lost_entry hParts hEntry, beq_self_eq_true,
      Bool.true_and]
    exact same_kept_rule (hTidy.entries entry hEntry)
      (hCanonical.entries entry hEntry)
  have hExtra := same_kept_extra hParts hTidy.extra.keys
  simp only [same, Bool.and_eq_true]
  exact
    ⟨⟨⟨⟨⟨beq_self_eq_true _, beq_self_eq_true _⟩,
      beq_self_eq_true _⟩, hPatterns⟩, hEntries⟩, hExtra⟩

/- Every report is about a node of the document. -/
theorem hasNode_reports
    (hTidy : document.Tidy) :
    ∀ report ∈ document.reports check,
      document.HasNode report.root report.finding.place := by
  have hRule :
      ∀ members : Json.Object,
        (Json.Value.object members).Tidy →
          ∀ finding ∈ (walkRule check members).findings,
            finding.place ≠ [] ∧
              Import.HasNode finding.place (.object members) := by
    intro members hMembers
    apply hasNode_walkRule check hMembers.keys
    intro field value hMember
    exact
      (hasNode_walk check (hMembers.members _ hMember)).1 field
  intro report hReport
  rw [reports, List.mem_append, List.mem_append,
    List.mem_flatMap, List.mem_flatMap, List.mem_flatMap]
    at hReport
  rcases hReport with
    ⟨entry, hEntry, hFound⟩ | ⟨item, hItem, hFound⟩ |
      ⟨field, hField, hFound⟩
  · rcases List.mem_map.mp hFound with ⟨finding, hFinding, rfl⟩
    exact
      ⟨entry.2, hEntry,
        hRule entry.2 (hTidy.entries entry hEntry) finding
          hFinding⟩
  · rcases List.mem_map.mp hFound with ⟨finding, hFinding, rfl⟩
    have hMembers := List.fst_mem_of_mem_zipIdx hItem
    exact
      ⟨item.1, hItem,
        hRule item.1 (hTidy.patterns item.1 hMembers) finding
          hFinding⟩
  · rcases List.mem_map.mp hFound with ⟨finding, hFinding, rfl⟩
    refine ⟨field.2, hField, ?_⟩
    rcases List.mem_cons.mp hFinding with rfl | hValue
    · rfl
    · split at hValue
      · cases hValue
      · rw [List.mem_singleton.mp hValue]
        rfl

/- An import that is not stopped met no name twice. -/
theorem nodup_names_of_errors
    (hErrors : document.errors check = []) :
    (document.repository.map Prod.fst).Nodup := by
  have hTaken :
      ∀ (entries : List (String × Json.Object))
        (taken : List String),
        taken.Nodup →
          entryErrors check taken entries = [] →
            (taken ++ entries.map Prod.fst).Nodup := by
    intro entries
    induction entries with
    | nil =>
        intro taken hNodup _
        rw [List.map_nil, List.append_nil]
        exact hNodup
    | cons entry entries ih =>
        intro taken hNodup hNone
        rw [entryErrors, List.append_eq_nil_iff,
          List.append_eq_nil_iff] at hNone
        have hNew : entry.1 ∉ taken := by
          intro hOld
          rw [if_pos hOld] at hNone
          cases hNone.1
        rw [List.map_cons, List.append_cons]
        refine ih (taken ++ [entry.1]) ?_ hNone.2.2
        exact
          List.nodup_append.mpr
            ⟨hNodup, List.nodup_singleton _,
              fun name hName other hOther hEqual =>
                hNew (List.mem_singleton.mp hOther ▸
                  hEqual ▸ hName)⟩
  rw [errors, List.append_eq_nil_iff] at hErrors
  exact hTaken document.repository [] List.nodup_nil hErrors.1

end Parts

end Document

/-
  The diagnostics of an import account for what it loses.
  They are the reports of the walk, in order, each about a
  node of the document.  The export of what is imported is the
  document without the nodes that are reported, save for the
  root fields of which it is only said that they are not
  modelled.  So an import without diagnostics loses nothing.
-/
theorem importGrammar_accounts
    (check : Acceptance)
    (document : Document)
    (hTidy : document.Tidy)
    (hCanonical : document.CanonicalKeys check)
    (journal : Journal)
    (grammar : Grammar)
    (hRun :
      ((importGrammar check document).start journal).1 =
        .ok grammar) :
    let reports := document.reports check
    let diagnostics :=
      ((importGrammar check document).start
        journal).2.diagnostics
    diagnostics =
        journal.diagnostics ++
          reports.map Document.Report.diagnostic ∧
      (∀ report ∈ reports,
        document.HasNode report.root report.finding.place) ∧
      grammar.toDocument.same
          (document.without (Document.lost reports)) =
        true ∧
      (diagnostics = journal.diagnostics →
        grammar.toDocument.same document = true) := by
  intro reports diagnostics
  have hFollows := importGrammar_follows check document
  have hErrors : document.errors check = [] :=
    hFollows.errors_eq_nil hRun
  have hNames := Document.nodup_names_of_errors hErrors
  have hStart := hFollows journal
  rw [hErrors] at hStart
  rcases hStart with ⟨hResult, hDiagnostics⟩
  have hGrammar : document.kept check = grammar := by
    rw [hRun] at hResult
    exact (Except.ok.inj hResult).symm
  have hAccounts :=
    Document.kept_accounts hTidy hCanonical hNames
  rw [hGrammar] at hAccounts
  refine
    ⟨hDiagnostics, Document.hasNode_reports hTidy, hAccounts,
      ?_⟩
  intro hNothing
  have hReports : reports = [] := by
    have hMap := hDiagnostics.symm.trans hNothing
    rw [List.append_right_eq_self, List.map_eq_nil_iff] at hMap
    exact hMap
  have hLost :
      Document.lost (document.reports check) =
        fun _ _ => false := by
    funext root place
    rw [show document.reports check = [] from hReports]
    rfl
  rw [hLost, Document.without_eq_self] at hAccounts
  exact hAccounts

/-
  A document whose begin is refused, which has an unknown key
  and an item that is no rule, and of whose two other root
  fields one is a number.
-/
def lossyDocument : Document where
  name := "lossy"
  scopeName := "source.lossy"
  injectionSelector := none
  patterns :=
    [[("begin", .string "("), ("end", .string "b"),
      ("endCaptures",
        .object [("1", .object [("name", .string "one")])]),
      ("patterns",
        .array [.null, .object [("match", .string "a")]])]]
  repository :=
    [("entry",
      [("comment", .string "text"), ("name", .string "entry")])]
  extra :=
    [("uuid", .string "1"), ("version", .number (.integer 1))]

/- The loss of a begin, its end and other nodes is reported. -/
theorem importGrammar_accounts_lossyDocument :
    let check : Acceptance := fun text =>
      if text = "(" then some "refused" else none
    let gone := Document.lost (lossyDocument.reports check)
    (lossyDocument.kept check).toDocument.same
          (lossyDocument.without gone) =
        true ∧
      gone (.pattern 0) [.member "end"] = true ∧
      gone (.pattern 0) [.member "patterns", .item 0] = true ∧
      gone (.extra "uuid") [] = false := by
  intro check gone
  have hTidy : lossyDocument.Tidy := by decide
  have hCanonical : lossyDocument.CanonicalKeys check := by
    constructor
    · decide
    · decide
  have hRun :
      ((importGrammar check lossyDocument).start
          Journal.empty).1 =
        .ok (lossyDocument.kept check) := by
    rfl
  have hAccounts :=
    importGrammar_accounts check lossyDocument hTidy hCanonical
      Journal.empty _ hRun
  exact ⟨hAccounts.2.2.1, by decide, by decide, by decide⟩

end TextMate
