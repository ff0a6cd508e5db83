import Mathlib.Data.List.Infix
import TextMate.Disk.Path

/-
  This file states which steps a path has: those of a path that
  leads on from a folder, and those of the parents of a path.

  A name is a text that is one step down.  The steps of a path
  go down by names only, whatever its text is.

  Main declarations:
    * `Path.IsName`
    * `Path.steps_join`
    * `Path.IsName.endsInSlash_join`
    * `Path.isName_of_mem_steps`
    * `Path.moving_steps_of_components`
    * `Path.map_moves_beginnings`
    * `Path.exists_prefix_of_mem_parents`
    * `Path.parent?_of_components`
    * `Path.IsExtension`
    * `Path.hasExtension_iff`
-/

namespace TextMate

namespace Path

------------------------------------------------------------
-- Parts
------------------------------------------------------------

/- Some part is always there, if only the empty one. -/
theorem parts_ne_nil
    (text : List Char) :
    parts text ≠ [] := by
  cases text with
  | nil => exact List.cons_ne_nil _ _
  | cons c rest =>
      rw [parts]
      split
      · exact List.cons_ne_nil _ _
      · split <;> exact List.cons_ne_nil _ _

/- A slash separates the parts before it and behind it. -/
theorem parts_append_slash
    (first second : List Char) :
    parts (first ++ '/' :: second) =
      parts first ++ parts second := by
  induction first with
  | nil => simp [parts]
  | cons c rest ih =>
      rw [List.cons_append, parts, parts, ih]
      split
      · rfl
      · cases hParts : parts rest with
        | nil => exact absurd hParts (parts_ne_nil rest)
        | cons part more => rfl

/- A text without a slash is one part. -/
theorem parts_of_no_slash
    {text : List Char}
    (hSlash : '/' ∉ text) :
    parts text = [text] := by
  induction text with
  | nil => rfl
  | cons c rest ih =>
      rw [List.mem_cons, not_or] at hSlash
      rw [parts, if_neg (Ne.symm hSlash.1), ih hSlash.2]

/- No part has a slash. -/
theorem slash_not_mem_of_mem_parts
    {text part : List Char}
    (hPart : part ∈ parts text) :
    '/' ∉ part := by
  induction text generalizing part with
  | nil =>
      rw [List.mem_singleton.mp hPart]
      exact List.not_mem_nil
  | cons c rest ih =>
      rw [parts] at hPart
      split at hPart
      · rcases List.mem_cons.mp hPart with rfl | hRest
        · exact List.not_mem_nil
        · exact ih hRest
      · rename_i hSlash
        cases hParts : parts rest with
        | nil => exact absurd hParts (parts_ne_nil rest)
        | cons first more =>
            rw [hParts] at hPart ih
            rcases List.mem_cons.mp hPart with rfl | hMore
            · rw [List.mem_cons, not_or]
              exact
                ⟨Ne.symm hSlash, ih List.mem_cons_self⟩
            · exact ih (List.mem_cons_of_mem _ hMore)

/- The parts of a path that is made of them. -/
theorem parts_ofParts
    {texts : List (List Char)}
    (hSome : texts ≠ [])
    (hSlash : ∀ part ∈ texts, '/' ∉ part) :
    parts (ofParts texts).toList = texts := by
  rw [ofParts, String.toList_ofList]
  induction texts with
  | nil => exact absurd rfl hSome
  | cons first rest ih =>
      have hFirst :=
        parts_of_no_slash (hSlash first List.mem_cons_self)
      cases rest with
      | nil => rw [List.intercalate_singleton, hFirst]
      | cons second more =>
          have hRest :=
            ih (List.cons_ne_nil _ _) fun part hPart =>
              hSlash part (List.mem_cons_of_mem _ hPart)
          rw [List.intercalate_cons_cons, List.append_assoc,
            List.singleton_append, parts_append_slash, hFirst,
            hRest, List.singleton_append]

/- A path that starts at the root has an empty part first. -/
theorem isAbsolute_iff_parts
    {path : String} :
    isAbsolute path ↔
      ∃ rest, rest ≠ [] ∧ parts path.toList = [] :: rest := by
  rw [isAbsolute, beq_iff_eq]
  cases path.toList with
  | nil => simp [parts]
  | cons c rest =>
      rw [parts, List.head?_cons, Option.some.injEq]
      by_cases hSlash : c = '/'
      · simp [hSlash, parts_ne_nil]
      · rw [if_neg hSlash]
        cases parts rest <;> simp [hSlash]

------------------------------------------------------------
-- Names
------------------------------------------------------------

/- A text that can be the name of an entry of a folder. -/
structure IsName
    (name : String) : Prop where
  noSlash : '/' ∉ name.toList
  notEmpty : name ≠ ""
  notStay : name ≠ "."
  notUp : name ≠ ".."

theorem isName_iff
    (name : String) :
    IsName name ↔
      '/' ∉ name.toList ∧ name ≠ "" ∧ name ≠ "." ∧
        name ≠ ".." :=
  ⟨fun hName => ⟨hName.1, hName.2, hName.3, hName.4⟩,
    fun hName => ⟨hName.1, hName.2.1, hName.2.2.1, hName.2.2.2⟩⟩

instance : DecidablePred IsName := fun name =>
  decidable_of_iff _ (isName_iff name).symm

/- Only an empty part is no step. -/
theorem eq_nil_of_step?
    {part : List Char}
    (hStep : step? part = none) :
    part = [] := by
  unfold step? at hStep
  split at hStep
  · rfl
  · cases hStep
  · cases hStep
  · cases hStep

/- A part that leads down is a name. -/
theorem isName_of_step?
    {part : List Char}
    {name : String}
    (hSlash : '/' ∉ part)
    (hStep : step? part = some (.down name)) :
    IsName name := by
  unfold step? at hStep
  split at hStep
  · cases hStep
  · cases hStep
  · cases hStep
  · rename_i hEmpty hStay hUp
    cases hStep
    constructor
    · rwa [String.toList_ofList]
    · intro hName
      exact hEmpty (by simpa using congrArg String.toList hName)
    · intro hName
      exact hStay (by simpa using congrArg String.toList hName)
    · intro hName
      exact hUp (by simpa using congrArg String.toList hName)

/- The steps of a path go down by names. -/
theorem isName_of_mem_steps
    {path name : String}
    (hStep : .down name ∈ steps path) :
    IsName name := by
  rcases List.mem_filterMap.mp hStep with ⟨part, hPart, hDown⟩
  exact
    isName_of_step? (slash_not_mem_of_mem_parts hPart) hDown

/- A name is one step down. -/
theorem IsName.steps_eq
    {name : String}
    (hName : IsName name) :
    steps name = [.down name] := by
  have hStep : step? name.toList = some (.down name) := by
    unfold step?
    split
    · rename_i hText
      exact absurd (String.toList_injective hText) hName.notEmpty
    · rename_i hText
      exact absurd (String.toList_injective hText) hName.notStay
    · rename_i hText
      exact absurd (String.toList_injective hText) hName.notUp
    · rw [String.ofList_toList]
  rw [steps, parts_of_no_slash hName.noSlash,
    List.filterMap_cons_some hStep, List.filterMap_nil]

/- A name does not start with a slash. -/
theorem IsName.isAbsolute_eq
    {name : String}
    (hName : IsName name) :
    isAbsolute name = false := by
  rw [isAbsolute, beq_eq_false_iff_ne]
  intro hHead
  exact hName.noSlash (List.mem_of_head? hHead)

------------------------------------------------------------
-- Paths in Folders
------------------------------------------------------------

/- A slash separates the steps before it and behind it. -/
theorem steps_append_slash
    (first second : String) :
    steps (first ++ "/" ++ second) =
      steps first ++ steps second := by
  have hText :
      (first ++ "/" ++ second).toList =
        first.toList ++ '/' :: second.toList := by
    simp
  rw [steps, hText, parts_append_slash, List.filterMap_append]
  rfl

/- A path leads on from the steps of its folder. -/
theorem steps_join
    (folder : String)
    {path : String}
    (hPath : isAbsolute path = false) :
    steps (join folder path) = steps folder ++ steps path := by
  unfold join
  rw [hPath, Bool.false_or]
  split
  · rename_i hEmpty
    rw [eq_of_beq hEmpty]
    rfl
  · split
    · rename_i hSlash
      -- The folder has a slash of its own at the end.
      rw [endsInSlash, beq_iff_eq,
        List.getLast?_eq_some_iff] at hSlash
      rcases hSlash with ⟨before, hBefore⟩
      have hFolder : folder = String.ofList before ++ "/" := by
        apply String.toList_injective
        simp [hBefore]
      have hOwn :
          steps folder = steps (String.ofList before) := by
        have hSteps :=
          steps_append_slash (String.ofList before) ""
        rw [String.append_empty, ← hFolder] at hSteps
        exact hSteps.trans (List.append_nil _)
      rw [hOwn, hFolder, steps_append_slash]
    · exact steps_append_slash folder path

/- A path that leads on from a folder starts where it does. -/
theorem isAbsolute_join
    (folder : String)
    {path : String}
    (hPath : isAbsolute path = false) :
    isAbsolute (join folder path) = isAbsolute folder := by
  unfold join
  rw [hPath, Bool.false_or]
  split
  · rename_i hEmpty
    rw [eq_of_beq hEmpty, hPath]
    rfl
  · rename_i hFolder
    have hText : folder.toList ≠ [] := by
      intro hNone
      apply hFolder
      rw [beq_iff_eq]
      exact String.toList_injective hNone
    unfold isAbsolute
    split <;>
      simp [List.head?_append, List.head?_eq_some_head hText]

/- A path does not end in a slash if it leads on by a name. -/
theorem IsName.endsInSlash_join
    {name : String}
    (hName : IsName name)
    (folder : String) :
    endsInSlash (join folder name) = false := by
  have hText : name.toList ≠ [] := fun hNone =>
    hName.notEmpty (String.toList_injective hNone)
  have hLast : name.toList.getLast? ≠ some '/' := fun hSlash =>
    hName.noSlash (List.mem_of_getLast? hSlash)
  have hJoined :
      ∀ before : String,
        (before ++ name).toList.getLast? ≠ some '/' := by
    intro before
    rw [String.toList_append, List.getLast?_append,
      Option.or_of_isSome (by simpa using hText)]
    exact hLast
  unfold join
  rw [hName.isAbsolute_eq, Bool.false_or, endsInSlash,
    beq_eq_false_iff_ne]
  split
  · exact hLast
  · split <;> exact hJoined _

------------------------------------------------------------
-- Components
------------------------------------------------------------

/-
  The components of a path that only goes down are its steps,
  but for those that stay.
-/
theorem moving_steps_of_components
    {path : String}
    {names : List String}
    (hDown : components path = names.map .down) :
    moving (steps path) = names.map .down := by
  unfold components at hDown
  split at hDown
  · rename_i rest hSteps
    split at hDown
    · rw [hSteps]
      exact hDown
    · cases names <;> cases hDown
  · exact hDown

/- A path that does not start with a stay has all its moves. -/
theorem components_of_no_stay
    {path : String}
    (hStart :
      ∀ part rest, parts path.toList = part :: rest →
        step? part ≠ some .stay) :
    components path = moving (steps path) := by
  unfold components
  split
  · rename_i rest hSteps
    rw [if_pos]
    · rw [hSteps]
      rfl
    · -- The first part is empty, and there is another one.
      rw [isAbsolute_iff_parts]
      cases hParts : parts path.toList with
      | nil => exact absurd hParts (parts_ne_nil _)
      | cons part more =>
          have hStep := hStart part more hParts
          rw [steps, hParts] at hSteps
          cases hFirst : step? part with
          | none =>
              rw [List.filterMap_cons_none hFirst] at hSteps
              refine ⟨more, ?_, ?_⟩
              · rintro rfl
                cases hSteps
              · rw [eq_nil_of_step? hFirst]
          | some step =>
              rw [List.filterMap_cons_some hFirst] at hSteps
              cases hSteps
              exact absurd hFirst hStep
  · rfl

/- A path that only goes down does not start with a stay. -/
theorem no_stay_of_components
    {path : String}
    {names : List String}
    (hDown : components path = names.map .down)
    {part : List Char}
    {rest : List (List Char)}
    (hParts : parts path.toList = part :: rest) :
    step? part ≠ some .stay := by
  intro hStay
  have hRelative : ¬isAbsolute path := by
    rw [isAbsolute_iff_parts, hParts]
    rintro ⟨_, -, hFirst⟩
    cases hFirst
    cases hStay
  rw [components, steps, hParts,
    List.filterMap_cons_some hStay] at hDown
  simp only [if_neg hRelative] at hDown
  cases names <;> cases hDown

------------------------------------------------------------
-- Parents
------------------------------------------------------------

/- The steps that lead somewhere, of the parts of a path. -/
def moves
    (parts : List (List Char)) : List Step :=
  moving (parts.filterMap step?)

/- A part that counts leads one step on. -/
theorem moves_cons_of_counts
    {part : List Char}
    (hCounts : counts false part) :
    ∃ step, ∀ rest,
      moves (part :: rest) = step :: moves rest := by
  unfold counts at hCounts
  split at hCounts
  · cases hCounts
  · cases hCounts
  · rename_i step hMoves hStep
    refine ⟨step, fun rest => ?_⟩
    rw [moves, List.filterMap_cons_some hStep, moving,
      List.filter_cons_of_pos (by simpa using hMoves)]
    rfl

/- A part that does not count leads nowhere. -/
theorem moves_cons_of_not_counts
    {part : List Char}
    (hCounts : ¬counts false part)
    (rest : List (List Char)) :
    moves (part :: rest) = moves rest := by
  unfold counts at hCounts
  split at hCounts
  · rename_i hStep
    rw [moves, List.filterMap_cons_none hStep]
    rfl
  · rename_i hStep
    rw [moves, List.filterMap_cons_some hStep]
    rfl
  · exact absurd rfl hCounts

/- The beginnings of a path lead on step by step. -/
theorem map_moves_beginnings
    (parts : List (List Char)) :
    (beginnings false parts).map moves =
      (moves parts).inits.tail := by
  induction parts with
  | nil => rfl
  | cons part rest ih =>
      rw [beginnings]
      by_cases hCounts : counts false part = true
      · rcases moves_cons_of_counts hCounts with ⟨step, hMoves⟩
        have hLater :
            moves ∘ (part :: ·) = (step :: ·) ∘ moves :=
          funext hMoves
        have hInits :
            (moves rest).inits =
              [] :: (moves rest).inits.tail := by
          cases moves rest <;> simp
        rw [if_pos hCounts, List.map_cons, hMoves, hMoves,
          List.map_map, hLater, ← List.map_map, ih,
          List.inits_cons, List.tail_cons]
        conv_rhs => rw [hInits]
        rfl
      · have hLater : moves ∘ (part :: ·) = moves :=
          funext (moves_cons_of_not_counts hCounts)
        rw [if_neg hCounts, List.map_map, hLater, ih,
          moves_cons_of_not_counts hCounts]

/- It matters only for a stay whether a part is the first. -/
theorem beginnings_of_no_stay
    {parts : List (List Char)}
    (hStart :
      ∀ part rest, parts = part :: rest →
        step? part ≠ some .stay) :
    beginnings true parts = beginnings false parts := by
  cases parts with
  | nil => rfl
  | cons part rest =>
      have hStep := hStart part rest rfl
      have hCounts : counts true part = counts false part := by
        unfold counts
        split
        · rfl
        · rename_i hStay
          exact absurd hStay hStep
        · rfl
      rw [beginnings, beginnings, hCounts]

/- A beginning has the first parts, and not empty ones alone. -/
theorem of_mem_beginnings
    {isFirst : Bool}
    {parts way : List (List Char)}
    (hWay : way ∈ beginnings isFirst parts) :
    way <+: parts ∧ ∃ part ∈ way, part ≠ [] := by
  induction parts generalizing isFirst way with
  | nil => cases hWay
  | cons part rest ih =>
      have hLater :
          way ∈ (beginnings false rest).map (part :: ·) →
            way <+: part :: rest ∧ ∃ part ∈ way, part ≠ [] := by
        intro hMapped
        rcases List.mem_map.mp hMapped with ⟨more, hMore, rfl⟩
        rcases ih hMore with ⟨hPrefix, other, hOther, hSome⟩
        exact
          ⟨List.prefix_cons_inj part |>.mpr hPrefix, other,
            List.mem_cons_of_mem _ hOther, hSome⟩
      rw [beginnings] at hWay
      split at hWay
      · rename_i hCounts
        rcases List.mem_cons.mp hWay with rfl | hMapped
        · refine
            ⟨List.prefix_append [part] rest, part,
              List.mem_singleton_self part, ?_⟩
          rintro rfl
          cases hCounts
        · exact hLater hMapped
      · exact hLater hWay

/- There is a beginning up to each part that goes down. -/
theorem beginnings_ne_nil
    {isFirst : Bool}
    {parts : List (List Char)}
    {part : List Char}
    {name : String}
    (hPart : part ∈ parts)
    (hStep : step? part = some (.down name)) :
    beginnings isFirst parts ≠ [] := by
  induction parts generalizing isFirst with
  | nil => cases hPart
  | cons first rest ih =>
      rw [beginnings]
      rcases List.mem_cons.mp hPart with rfl | hRest
      · rw [if_pos (by rw [counts, hStep])]
        exact List.cons_ne_nil _ _
      · split
        · exact List.cons_ne_nil _ _
        · exact fun hNone =>
            ih hRest (List.map_eq_nil_iff.mp hNone)

/- A path that goes down has a parent. -/
theorem isSome_parent?
    {path name : String}
    (hDown : .down name ∈ steps path) :
    (parent? path).isSome := by
  rcases List.mem_filterMap.mp hDown with ⟨part, hPart, hStep⟩
  rw [parent?, parents, List.head?_reverse, List.getLast?_isSome]
  cases hWays : beginnings true (parts path.toList) with
  | nil => exact absurd hWays (beginnings_ne_nil hPart hStep)
  | cons way ways => exact List.cons_ne_nil _ _

/-
  The parents of a path that only goes down start where it does,
  and they only go down too.
-/
theorem components_of_mem_parents
    {path parent : String}
    {names : List String}
    (hDown : components path = names.map .down)
    (hParent : parent ∈ parents path) :
    components parent = moving (steps parent) ∧
      isAbsolute parent = isAbsolute path := by
  rw [parents, List.mem_reverse] at hParent
  rcases List.mem_cons.mp (List.mem_of_mem_dropLast hParent) with
    rfl | hWays
  · cases isAbsolute path <;> decide
  · rcases List.mem_map.mp hWays with ⟨way, hWay, rfl⟩
    rcases of_mem_beginnings hWay with
      ⟨⟨after, hParts⟩, last, hLast, hSome⟩
    have hOwn : parts (ofParts way).toList = way := by
      apply parts_ofParts (List.ne_nil_of_mem hLast)
      intro part hPart
      apply slash_not_mem_of_mem_parts
      rw [← hParts]
      exact List.mem_append_left _ hPart
    cases way with
    | nil => cases hLast
    | cons first more =>
        rw [List.cons_append] at hParts
        constructor
        · apply components_of_no_stay
          intro part rest hEqual
          rw [hOwn] at hEqual
          cases hEqual
          exact no_stay_of_components hDown hParts.symm
        · rw [Bool.eq_iff_iff, isAbsolute_iff_parts,
            isAbsolute_iff_parts, hOwn, ← hParts]
          constructor
          · rintro ⟨_, hMore, hFirst⟩
            cases hFirst
            exact
              ⟨_, List.append_ne_nil_of_left_ne_nil hMore _,
                rfl⟩
          · rintro ⟨_, -, hFirst⟩
            cases hFirst
            -- The part that counts is another one.
            refine ⟨more, ?_, rfl⟩
            rintro rfl
            exact hSome (List.mem_singleton.mp hLast)

/- The parents go all the ways that stop before the end. -/
theorem map_moving_parents
    {path : String}
    {names : List String}
    (hDown : components path = names.map .down) :
    (parents path).map (fun parent => moving (steps parent)) =
      (names.map Step.down).inits.dropLast.reverse := by
  have hBase :
      moving (steps (if isAbsolute path then "/" else "")) =
        [] := by
    cases isAbsolute path <;> rfl
  have hFirst :
      beginnings true (parts path.toList) =
        beginnings false (parts path.toList) :=
    beginnings_of_no_stay fun _ _ hParts =>
      no_stay_of_components hDown hParts
  have hWays :
      (beginnings true (parts path.toList)).map
          (fun way => moving (steps (ofParts way))) =
        (names.map Step.down).inits.tail := by
    rw [hFirst, ← moving_steps_of_components hDown]
    refine Eq.trans (List.map_congr_left ?_)
      (map_moves_beginnings _)
    intro way hWay
    rcases of_mem_beginnings hWay with ⟨hPrefix, _, hSome, -⟩
    rw [steps, parts_ofParts (List.ne_nil_of_mem hSome)]
    · rfl
    · intro part hPart
      exact slash_not_mem_of_mem_parts (hPrefix.subset hPart)
  rw [parents, List.map_reverse, List.map_dropLast,
    List.map_cons, hBase, List.map_map]
  congr 2
  rw [Function.comp_def, hWays]
  cases names <;> simp

/-
  The parents of a path that only goes down start where it does
  and go a part of its way.
-/
theorem exists_prefix_of_mem_parents
    {path parent : String}
    {names : List String}
    (hDown : components path = names.map .down)
    (hParent : parent ∈ parents path) :
    ∃ before, before <+: names ∧
      components parent = before.map .down ∧
      isAbsolute parent = isAbsolute path := by
  rcases components_of_mem_parents hDown hParent with
    ⟨hMoving, hAbsolute⟩
  have hWay :
      moving (steps parent) ∈
        (names.map Step.down).inits.dropLast.reverse := by
    rw [← map_moving_parents hDown]
    exact List.mem_map_of_mem hParent
  have hPrefix :
      moving (steps parent) <+: names.map Step.down := by
    rw [← List.mem_inits]
    exact List.mem_of_mem_dropLast (List.mem_reverse.mp hWay)
  rcases List.prefix_map_iff.mp hPrefix with
    ⟨before, hBefore, hEqual⟩
  exact ⟨before, hBefore, hMoving.trans hEqual, hAbsolute⟩

/- The longest way that stops before the last step. -/
theorem getLast?_dropLast_inits
    (before : List Step)
    (last : Step) :
    (before ++ [last]).inits.dropLast.getLast? =
      some before := by
  have hInits :
      (before ++ [last]).inits =
        before.inits ++ [before ++ [last]] := by
    rw [List.inits_append]
    rfl
  rw [hInits, List.dropLast_concat]
  rcases List.eq_nil_or_concat before with
    rfl | ⟨first, step, rfl⟩
  · rfl
  · rw [List.concat_eq_append, List.inits_append]
    exact List.getLast?_concat

/- The nearest parent goes all of the way but the last step. -/
theorem parent?_of_components
    {path : String}
    {names : List String}
    {last : String}
    (hDown : components path = (names ++ [last]).map .down) :
    ∃ parent, parent? path = some parent ∧
      components parent = names.map .down ∧
      isAbsolute parent = isAbsolute path := by
  have hWays := map_moving_parents hDown
  have hHead :
      ((parents path).map
          fun parent => moving (steps parent)).head? =
        some (names.map .down) := by
    rw [hWays, List.map_append, List.head?_reverse]
    exact getLast?_dropLast_inits (names.map .down) (.down last)
  rw [List.head?_map, Option.map_eq_some_iff] at hHead
  rcases hHead with ⟨parent, hParent, hMoving⟩
  rcases
      components_of_mem_parents hDown
        (List.mem_of_head? hParent) with
    ⟨hComponents, hAbsolute⟩
  exact
    ⟨parent, hParent, hComponents.trans hMoving, hAbsolute⟩

/- A parent keeps the text of the path. -/
example : parents "a//b/./c/" = ["a//b", "a", ""] := by
  decide

------------------------------------------------------------
-- Extensions
------------------------------------------------------------

/-
  The extension of a name is what is behind its last dot, unless
  the name starts with this dot.
-/
def IsExtension
    (extension : String)
    (name : String) : Prop :=
  '.' ∉ extension.toList ∧
    ∃ stem, stem ≠ [] ∧
      name.toList = stem ++ '.' :: extension.toList

/- A text without dots is looked for at the end of a name. -/
theorem hasExtension_iff
    {extension name : String}
    (hDot : '.' ∉ extension.toList) :
    hasExtension extension name ↔ IsExtension extension name := by
  simp only [hasExtension, IsExtension, hDot, not_false_eq_true,
    true_and, Bool.and_eq_true, List.isSuffixOf_iff_suffix,
    decide_eq_true_eq]
  constructor
  · rintro ⟨⟨stem, hStem⟩, hLonger⟩
    refine ⟨stem, ?_, hStem.symm⟩
    rintro rfl
    rw [← hStem, List.nil_append] at hLonger
    exact absurd hLonger (Nat.lt_irrefl _)
  · rintro ⟨stem, hSome, hName⟩
    refine ⟨⟨stem, hName.symm⟩, ?_⟩
    rw [hName, List.length_append]
    have hLength := List.length_pos_iff.mpr hSome
    omega

end Path

end TextMate
