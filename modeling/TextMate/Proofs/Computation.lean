/-
  This file defines what it means to run a computation that
  works on a state and may fail, and for such a computation to
  preserve a property of the state, to fail with certain errors
  only, or not to tell states apart.

  A property is preserved even where the computation fails,
  since what it did before stays done.

  Main declarations:
    * `outcome`
    * `outcome_bind`
    * `outcome_bind_eq_ok_iff`
    * `Preserves`
    * `Preserves.bind`
    * `FailsOnly`
    * `FailsOnly.bind`
    * `Respects`
    * `Respects.bind`
-/

namespace TextMate

variable {ε σ α β : Type}

------------------------------------------------------------
-- Outcomes
------------------------------------------------------------

/- The result of a computation, and the state that it leaves. -/
def outcome
    (computation : ExceptT ε (StateM σ) α)
    (state : σ) : Except ε α × σ :=
  (ExceptT.run computation).run state

@[simp] theorem outcome_get
    (state : σ) :
    outcome (get : ExceptT ε (StateM σ) σ) state =
      (.ok state, state) := rfl

@[simp] theorem outcome_modify
    (change : σ → σ)
    (state : σ) :
    outcome (modify change : ExceptT ε (StateM σ) PUnit)
        state =
      (.ok ⟨⟩, change state) := rfl

/- A computation in sequence starts where the first stopped. -/
theorem outcome_bind
    (first : ExceptT ε (StateM σ) α)
    (next : α → ExceptT ε (StateM σ) β)
    (state : σ) :
    outcome (first >>= next) state =
      match outcome first state with
      | (.ok value, after) => outcome (next value) after
      | (.error error, after) => (.error error, after) := by
  have hBind :
      outcome (first >>= next) state =
        (ExceptT.bindCont next (outcome first state).1).run
          (outcome first state).2 := rfl
  rw [hBind]
  rcases outcome first state with ⟨result, after⟩
  cases result <;> rfl

/- A sequence succeeds just if both of its parts do. -/
theorem outcome_bind_eq_ok_iff
    {first : ExceptT ε (StateM σ) α}
    {next : α → ExceptT ε (StateM σ) β}
    {state after : σ}
    {result : β} :
    outcome (first >>= next) state = (.ok result, after) ↔
      ∃ value between,
        outcome first state = (.ok value, between) ∧
          outcome (next value) between =
            (.ok result, after) := by
  rw [outcome_bind]
  rcases outcome first state with ⟨_ | value, between⟩
  · simp
  · constructor
    · exact fun hNext => ⟨value, between, rfl, hNext⟩
    · rintro ⟨_, _, hFirst, hNext⟩
      cases hFirst
      exact hNext

/- A change of the result leaves the state alone. -/
theorem outcome_map
    (computation : ExceptT ε (StateM σ) α)
    (change : α → β)
    (state : σ) :
    outcome (computation >>= fun value => pure (change value))
        state =
      ((outcome computation state).1.map change,
        (outcome computation state).2) := by
  rw [outcome_bind]
  rcases outcome computation state with ⟨_ | _, _⟩ <;> rfl

------------------------------------------------------------
-- Preserved Properties
------------------------------------------------------------

/- A property that holds before a computation holds after it. -/
def Preserves
    (holds : σ → Prop)
    (computation : ExceptT ε (StateM σ) α) : Prop :=
  ∀ state, holds state → holds (outcome computation state).2

namespace Preserves

variable {holds : σ → Prop}

theorem pure
    (value : α) :
    Preserves holds
      (Pure.pure value : ExceptT ε (StateM σ) α) :=
  fun _ hState => hState

theorem throw
    (error : ε) :
    Preserves holds
      (MonadExcept.throw error : ExceptT ε (StateM σ) α) :=
  fun _ hState => hState

theorem get :
    Preserves holds
      (MonadState.get : ExceptT ε (StateM σ) σ) :=
  fun _ hState => hState

theorem bind
    {first : ExceptT ε (StateM σ) α}
    {next : α → ExceptT ε (StateM σ) β}
    (hFirst : Preserves holds first)
    (hNext : ∀ value, Preserves holds (next value)) :
    Preserves holds (first >>= next) := by
  intro state hState
  have hAfter := hFirst state hState
  rw [outcome_bind]
  rcases hOutcome : outcome first state with
    ⟨_ | value, after⟩
  · rw [hOutcome] at hAfter
    exact hAfter
  · rw [hOutcome] at hAfter
    exact hNext value after hAfter

/- What a run leaves has the property. -/
theorem after
    {computation : ExceptT ε (StateM σ) α}
    (hKeeps : Preserves holds computation)
    {before after : σ}
    {result : Except ε α}
    (hBefore : holds before)
    (hRun : outcome computation before = (result, after)) :
    holds after := by
  have hAfter := hKeeps before hBefore
  rwa [hRun] at hAfter

theorem change
    {change : σ → σ}
    (hChange : ∀ state, holds state → holds (change state)) :
    Preserves holds
      (modify change : ExceptT ε (StateM σ) PUnit) :=
  hChange

/- Items are gone through in order, up to one that fails. -/
theorem mapM
    {step : α → ExceptT ε (StateM σ) β}
    {items : List α}
    (hItems : ∀ item ∈ items, Preserves holds (step item)) :
    Preserves holds (items.mapM step) := by
  induction items with
  | nil =>
      rw [List.mapM_nil]
      exact pure []
  | cons item items ih =>
      have hRest :=
        ih fun other hOther =>
          hItems other (List.mem_cons_of_mem _ hOther)
      rw [List.mapM_cons]
      refine bind (hItems item List.mem_cons_self) fun value => ?_
      exact bind hRest fun values => pure (value :: values)

end Preserves

------------------------------------------------------------
-- Errors
------------------------------------------------------------

/- A computation that fails does so with an error of a kind. -/
def FailsOnly
    (kind : ε → Prop)
    (computation : ExceptT ε (StateM σ) α) : Prop :=
  ∀ state error,
    (outcome computation state).1 = .error error → kind error

namespace FailsOnly

variable {kind : ε → Prop}

theorem pure
    (value : α) :
    FailsOnly kind
      (Pure.pure value : ExceptT ε (StateM σ) α) :=
  nofun

theorem change
    (change : σ → σ) :
    FailsOnly kind
      (modify change : ExceptT ε (StateM σ) PUnit) :=
  nofun

theorem throw
    {error : ε}
    (hError : kind error) :
    FailsOnly kind
      (MonadExcept.throw error : ExceptT ε (StateM σ) α) := by
  intro _ other hOther
  cases hOther
  exact hError

/- What follows is only run on values that are given. -/
theorem bind_of_ok
    {first : ExceptT ε (StateM σ) α}
    {next : α → ExceptT ε (StateM σ) β}
    (hFirst : FailsOnly kind first)
    (hNext :
      ∀ state value after,
        outcome first state = (.ok value, after) →
          FailsOnly kind (next value)) :
    FailsOnly kind (first >>= next) := by
  intro state error hError
  rw [outcome_bind] at hError
  rcases hOutcome : outcome first state with
    ⟨_ | value, after⟩
  · rw [hOutcome] at hError
    cases hError
    exact hFirst state error (congrArg Prod.fst hOutcome)
  · rw [hOutcome] at hError
    exact hNext state value after hOutcome after error hError

theorem bind
    {first : ExceptT ε (StateM σ) α}
    {next : α → ExceptT ε (StateM σ) β}
    (hFirst : FailsOnly kind first)
    (hNext : ∀ value, FailsOnly kind (next value)) :
    FailsOnly kind (first >>= next) :=
  hFirst.bind_of_ok fun _ value _ _ => hNext value

theorem mapM
    {step : α → ExceptT ε (StateM σ) β}
    (hStep : ∀ item, FailsOnly kind (step item))
    (items : List α) :
    FailsOnly kind (items.mapM step) := by
  induction items with
  | nil =>
      rw [List.mapM_nil]
      exact pure []
  | cons item items ih =>
      rw [List.mapM_cons]
      refine bind (hStep item) fun value => ?_
      exact bind ih fun values => pure (value :: values)

theorem forM
    {step : α → ExceptT ε (StateM σ) PUnit}
    (hStep : ∀ item, FailsOnly kind (step item))
    (items : List α) :
    FailsOnly kind (items.forM step) := by
  induction items with
  | nil => exact pure _
  | cons item items ih => exact bind (hStep item) fun _ => ih

end FailsOnly

------------------------------------------------------------
-- Two Runs
------------------------------------------------------------

/-
  A computation does not tell states apart: on two of them it
  gives the same result, and leaves states that it could not
  tell apart either.
-/
def Respects
    (alike : σ → σ → Prop)
    (computation : ExceptT ε (StateM σ) α) : Prop :=
  ∀ first second, alike first second →
    (outcome computation second).1 =
        (outcome computation first).1 ∧
      alike (outcome computation first).2
        (outcome computation second).2

namespace Respects

variable {alike : σ → σ → Prop}

theorem pure
    (value : α) :
    Respects alike
      (Pure.pure value : ExceptT ε (StateM σ) α) :=
  fun _ _ hAlike => ⟨rfl, hAlike⟩

theorem throw
    (error : ε) :
    Respects alike
      (MonadExcept.throw error : ExceptT ε (StateM σ) α) :=
  fun _ _ hAlike => ⟨rfl, hAlike⟩

theorem change
    {change : σ → σ}
    (hChange :
      ∀ first second, alike first second →
        alike (change first) (change second)) :
    Respects alike
      (modify change : ExceptT ε (StateM σ) PUnit) :=
  fun first second hAlike => ⟨rfl, hChange first second hAlike⟩

/- The second part starts with one value, on states alike. -/
theorem bind
    {first : ExceptT ε (StateM σ) α}
    {next : α → ExceptT ε (StateM σ) β}
    (hFirst : Respects alike first)
    (hNext : ∀ value, Respects alike (next value)) :
    Respects alike (first >>= next) := by
  intro before other hAlike
  have hBetween := hFirst before other hAlike
  rw [outcome_bind, outcome_bind]
  rcases hOne : outcome first before with ⟨result, after⟩
  rcases hTwo : outcome first other with ⟨result', after'⟩
  rw [hOne, hTwo] at hBetween
  rcases hBetween with ⟨hResult, hAfter⟩
  dsimp only at hResult hAfter
  subst hResult
  cases result' with
  | error error => exact ⟨rfl, hAfter⟩
  | ok value => exact hNext value after after' hAfter

end Respects

end TextMate
