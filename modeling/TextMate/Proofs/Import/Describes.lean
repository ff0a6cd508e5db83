import TextMate.Proofs.Import.Follows
import TextMate.Proofs.Import.Walk
import TextMate.Proofs.Pattern

/-
  This file proves that the import of a rule does what the
  walk over it says: it stops at the first captures key that
  is no index, and if there is none then it keeps what the
  walk keeps and reports what the walk finds.

  Main declarations:
    * `Walk.Describes`
    * `importMembers_follows`
    * `importRule_follows`
-/

namespace TextMate

namespace Import

------------------------------------------------------------
-- Imports as Walks
------------------------------------------------------------

namespace Walk

variable {α β γ : Type}

/-
  The run has the errors, the value and the diagnostics of a
  walk that starts at a path.
-/
def Describes
    (walk : Walk α)
    (path : String)
    (run : Run α) : Prop :=
  run.Follows (walk.errors path) walk.kept
    (walk.diagnostics path)

namespace Describes

variable {path : String}
variable {walk : Walk α}

theorem below
    (step : Step)
    {run : Run α}
    (hWalk : walk.Describes (step.path path) run) :
    (walk.below step).Describes path run := by
  unfold Describes at hWalk ⊢
  rw [errors_below, diagnostics_below]
  exact hWalk

theorem map
    {run : Run α}
    (hWalk : walk.Describes path run)
    (change : α → β) :
    (walk.map change).Describes path
      (run >>= fun value => pure (change value)) :=
  Run.Follows.map hWalk change

/- A run in sequence is described by walks that are joined. -/
theorem join
    (combine : α → β → γ)
    {second : Walk β}
    {run : Run α}
    {next : α → Run γ}
    (hWalk : walk.Describes path run)
    (hNext :
      (second.map (combine walk.kept)).Describes path
        (next walk.kept)) :
    (walk.join combine second).Describes path
      (run >>= next) := by
  unfold Describes
  rw [errors_join, diagnostics_join]
  exact hWalk.bind hNext

/- A captures key that is no index stops a run. -/
theorem meet_of_none
    {key : String}
    (hKey : groupIndex? key = none)
    (change : α → β) :
    ((walk.meet key).map change).Describes path
      (throwThe Error (.capturesKey path key)) := by
  have hError :
      (walk.meet key).errors path =
        .capturesKey path key :: walk.errors path := by
    refine List.filterMap_cons_some ?_
    simp [GroupKey.error?, hKey, Place.path]
  unfold Describes
  rw [errors_map, hError]
  exact .throw _ _ _ _

/- A captures key that is an index does not stop a run. -/
theorem meet_of_some
    {key : String}
    {index : UInt32}
    {run : Run β}
    {change : α → β}
    (hKey : groupIndex? key = some index)
    (hWalk : (walk.map change).Describes path run) :
    ((walk.meet key).map change).Describes path run := by
  have hErrors :
      (walk.meet key).errors path = walk.errors path := by
    refine List.filterMap_cons_none ?_
    simp [GroupKey.error?, hKey]
  unfold Describes
  rw [errors_map, hErrors]
  exact hWalk

end Describes

end Walk

theorem importText_follows
    (check : Acceptance)
    (path : String)
    (field : Field)
    (text : String) :
    (walkText check field text).Describes path
      (importText check path field text) := by
  unfold walkText importText importPattern
  cases field.kind with
  | label => exact .pure _
  | captures => exact (Run.Follows.report _ _ _).bind (.pure _)
  | children => exact (Run.Follows.report _ _ _).bind (.pure _)
  | pattern =>
      simp only [Pattern.text_ofText]
      cases isJudged field (Pattern.ofText text) with
      | false => exact .pure _
      | true =>
          cases check text with
          | none => exact .pure _
          | some reason =>
              exact (Run.Follows.report _ _ _).bind (.pure _)

theorem dropScalar_follows
    (path : String)
    (field : Field) :
    (walkScalar field).Describes path
      (dropScalar path field) := by
  unfold walkScalar dropScalar
  cases field.kind <;>
    exact (Run.Follows.report _ _ _).bind (.pure _)

theorem reportUnpaired_follows
    (path : String)
    (fields : List Field) :
    (reportUnpaired path fields).Follows [] ()
      (fields.map fun field =>
        (unpairedFinding field).diagnostic path) := by
  induction fields with
  | nil => exact .pure _
  | cons field rest ih =>
      exact (Run.Follows.report _ _ _).bind ih

theorem settle_follows
    (path : String)
    (outcomes : Outcomes) :
    (settled outcomes).Describes path
      (settle path (assemble .empty outcomes)
        (losesDelimiter outcomes)) := by
  unfold settled settle
  cases losesDelimiter outcomes with
  | false => exact .pure _
  | true =>
      have hFound :
          Walk.diagnostics path
              ⟨(assemble .empty outcomes).dropUnpaired,
                (assemble .empty outcomes).unpaired.map
                  unpairedFinding, []⟩ =
            (assemble .empty outcomes).unpaired.map
                (fun field =>
                  (unpairedFinding field).diagnostic path) ++
              [] := by
        simp [Walk.diagnostics]
      simp only [if_true, Walk.Describes, hFound]
      exact (reportUnpaired_follows path _).bind (.pure _)

------------------------------------------------------------
-- Rules as Walks
------------------------------------------------------------

mutual

theorem importMembers_follows
    (check : Acceptance) :
    ∀ (members : List (String × Json.Value))
      (path : String)
      (rule : Rule)
      (hasLost : Bool),
      ((walkMembers check members).map fun outcomes =>
          (assemble rule outcomes,
            hasLost || losesDelimiter outcomes)).Describes path
        (importMembers check path rule hasLost members)
  | [], path, rule, hasLost => by
      have hPure := Run.Follows.pure (rule, hasLost)
      simpa [Walk.Describes, importMembers, walkMembers,
        Walk.map, Walk.done, Walk.errors, Walk.diagnostics,
        assemble, losesDelimiter] using hPure
  | (key, value) :: rest, path, rule, hasLost => by
      rw [walkMembers, importMembers]
      cases hField : Field.ofKey? key with
      | none =>
          exact
            Walk.Describes.join
              (fun _ outcomes =>
                (assemble rule outcomes,
                  hasLost || losesDelimiter outcomes))
              (.report _ _ _)
              (importMembers_follows check rest path rule
                hasLost)
      | some field =>
          refine
            Walk.Describes.join
              (fun value outcomes =>
                (assemble rule ((field, value) :: outcomes),
                  hasLost ||
                    losesDelimiter ((field, value) :: outcomes)))
              (.below (.member key)
                (importValue_follows check value
                  (memberPath path key) field))
              ?_
          cases hKept : (walkValue check field value).kept with
          | some kept =>
              simp only [Walk.below, hKept]
              exact importMembers_follows check rest path
                (rule.set field kept) hasLost
          | none =>
              have hRest := importMembers_follows check rest
                path rule (hasLost || field.isDelimiter)
              simp only [Bool.or_assoc] at hRest
              simp only [Walk.below, hKept]
              exact hRest

theorem importValue_follows
    (check : Acceptance) :
    ∀ (value : Json.Value)
      (path : String)
      (field : Field),
      (walkValue check field value).Describes path
        (importValue check path field value)
  | .null, path, field => dropScalar_follows path field
  | .bool _, path, field => dropScalar_follows path field
  | .number _, path, field => dropScalar_follows path field
  | .string text, path, field =>
      importText_follows check path field text
  | .array items, path, field => by
      have hItems := importItems_follows check items path 0
      have hScalar := dropScalar_follows path field
      rw [walkValue, importValue]
      cases field.kind with
      | children => exact hItems.map _
      | pattern => exact hScalar
      | label => exact hScalar
      | captures => exact hScalar
  | .object members, path, field => by
      have hCaptures :=
        importCaptures_follows check members path []
      have hScalar := dropScalar_follows path field
      rw [walkValue, importValue]
      cases field.kind with
      | captures =>
          exact hCaptures.map
            fun captures => some (FieldValue.captures captures)
      | pattern => exact hScalar
      | label => exact hScalar
      | children => exact hScalar

theorem importCaptures_follows
    (check : Acceptance) :
    ∀ (members : List (String × Json.Value))
      (path : String)
      (captures : Captures),
      ((walkCaptures check members).map fun entries =>
          entries.foldl
            (fun captures entry =>
              captures.insert entry.1 entry.2)
            captures).Describes path
        (importCaptures check path captures members)
  | [], path, captures => .pure _
  | (key, value) :: rest, path, captures => by
      rw [walkCaptures, importCaptures]
      cases hIndex : groupIndex? key with
      | none => exact Walk.Describes.meet_of_none hIndex _
      | some index =>
          apply Walk.Describes.meet_of_some hIndex
          refine
            Walk.Describes.join
              (fun rule? entries =>
                (groupEntry key rule? ++ entries).foldl
                  (fun captures entry =>
                    captures.insert entry.1 entry.2)
                  captures)
              (.below (.member key)
                (importNested_follows check value
                  (memberPath path key)))
              ?_
          cases hKept : (walkNested check value).kept with
          | some kept =>
              simp only [Walk.below, hKept, groupEntry,
                hIndex]
              exact importCaptures_follows check rest path
                (captures.insert index kept)
          | none =>
              simp only [Walk.below, hKept, groupEntry,
                hIndex]
              exact importCaptures_follows check rest path
                captures

theorem importItems_follows
    (check : Acceptance) :
    ∀ (items : List Json.Value)
      (path : String)
      (position : Nat),
      (walkItems check position items).Describes path
        (importItems check path position items)
  | [], path, position => .pure _
  | value :: rest, path, position => by
      rw [walkItems, importItems]
      exact
        Walk.Describes.join _
          (.below (.item position)
            (importNested_follows check value
              (Rule.itemPath path position)))
          ((importItems_follows check rest path
            (position + 1)).map _)

theorem importNested_follows
    (check : Acceptance) :
    ∀ (value : Json.Value)
      (path : String),
      (walkNested check value).Describes path
        (importNested check path value)
  | .object members, path => by
      rw [walkNested, importNested]
      exact
        Walk.Describes.join (fun _ rule => some rule)
          (importMembers_follows check members path .empty
            false)
          ((settle_follows path
            (walkMembers check members).kept).map some)
  | .null, path => (Run.Follows.report _ _ _).bind (.pure _)
  | .bool _, path => (Run.Follows.report _ _ _).bind (.pure _)
  | .number _, path => (Run.Follows.report _ _ _).bind (.pure _)
  | .string _, path => (Run.Follows.report _ _ _).bind (.pure _)
  | .array _, path => (Run.Follows.report _ _ _).bind (.pure _)

end

theorem importRule_follows
    (check : Acceptance)
    (path : String)
    (members : Json.Object) :
    (walkRule check members).Describes path
      (importRule check path members) :=
  Walk.Describes.join (fun _ rule => rule)
    (importMembers_follows check members path .empty false)
    (settle_follows path (walkMembers check members).kept)

end Import

end TextMate
