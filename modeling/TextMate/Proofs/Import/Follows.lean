import TextMate.Error

/-
  This file relates a run to what can be said of it without a
  journal: the errors it meets in order, of which the first
  stops it, and the value and the diagnostics of a run that
  meets none.

  Each of the three parts of a sequence of runs is the one of
  the first run followed by the one of the second.

  Main declarations:
    * `Run.Follows`
    * `Run.Follows.bind`
    * `Run.Follows.errors_eq_nil`
    * `Run.Follows.of_errors_eq_nil`
    * `Run.Follows.eq_error_iff`
-/

namespace TextMate

namespace Run

------------------------------------------------------------
-- Starts
------------------------------------------------------------

variable {α β : Type}

/- A run in sequence starts where the one before it stopped. -/
theorem start_bind
    (first : Run α)
    (next : α → Run β)
    (journal : Journal) :
    (first >>= next).start journal =
      match first.start journal with
      | (.ok value, after) => (next value).start after
      | (.error error, after) => (.error error, after) := by
  have hBind :
      (first >>= next).start journal =
        (ExceptT.bindCont next (first.start journal).1).run
          (first.start journal).2 := rfl
  rw [hBind]
  rcases first.start journal with ⟨result, after⟩
  cases result <;> rfl

------------------------------------------------------------
-- Descriptions of Runs
------------------------------------------------------------

/-
  A run stops at the first of its errors.  If there is none
  then it gives the value and appends the diagnostics.
-/
def Follows
    (run : Run α)
    (errors : List Error)
    (value : α)
    (found : List Diagnostic) : Prop :=
  ∀ journal,
    match errors with
    | [] =>
        (run.start journal).1 = .ok value ∧
          (run.start journal).2.diagnostics =
            journal.diagnostics ++ found
    | error :: _ => (run.start journal).1 = .error error

namespace Follows

theorem pure
    (value : α) :
    Follows (Pure.pure value) [] value [] := by
  intro journal
  exact ⟨rfl, (List.append_nil _).symm⟩

theorem lift
    (value : α) :
    Follows (liftM (Except.ok value : Except Error α)) []
      value [] := by
  intro journal
  exact ⟨rfl, (List.append_nil _).symm⟩

theorem report
    (severity : Severity)
    (path : String)
    (kind : DiagnosticKind) :
    Follows (Run.report severity path kind) [] ()
      [⟨severity, path, kind⟩] := by
  intro journal
  exact ⟨rfl, rfl⟩

theorem note
    (level : LogLevel)
    (text : String) :
    Follows (Run.note level text) [] () [] := by
  intro journal
  exact ⟨rfl, (List.append_nil _).symm⟩

/- An error stops a run, whatever would have come after it. -/
theorem throw
    (error : Error)
    (errors : List Error)
    (value : α)
    (found : List Diagnostic) :
    Follows (throwThe Error error) (error :: errors) value
      found := by
  intro journal
  rfl

/- What comes after an error is never run. -/
theorem throw_bind
    (error : Error)
    (errors : List Error)
    (next : α → Run β)
    (value : β)
    (found : List Diagnostic) :
    Follows (throwThe Error error >>= next) (error :: errors)
      value found := by
  intro journal
  rfl

theorem bind
    {first : Run α}
    {next : α → Run β}
    {errors later : List Error}
    {value : α}
    {result : β}
    {found more : List Diagnostic}
    (hFirst : first.Follows errors value found)
    (hNext : (next value).Follows later result more) :
    (first >>= next).Follows (errors ++ later) result
      (found ++ more) := by
  intro journal
  have hStart := hFirst journal
  have hBind := start_bind first next journal
  rcases hOutcome : first.start journal with ⟨outcome, after⟩
  rw [hOutcome] at hBind
  cases errors with
  | cons error errors =>
      simp only [hOutcome] at hStart
      subst hStart
      simp only [List.cons_append, hBind]
  | nil =>
      simp only [hOutcome] at hStart
      rcases hStart with ⟨rfl, hFound⟩
      have hRest := hNext after
      simp only [List.nil_append]
      cases later with
      | cons error later =>
          simp only [hBind]
          exact hRest
      | nil =>
          simp only [hBind]
          refine ⟨hRest.1, ?_⟩
          rw [hRest.2, hFound, List.append_assoc]

/- A change of the value is described by the changed value. -/
theorem map
    {run : Run α}
    {errors : List Error}
    {value : α}
    {found : List Diagnostic}
    (hRun : run.Follows errors value found)
    (change : α → β) :
    (run >>= fun value => Pure.pure (change value)).Follows
      errors (change value) found := by
  have hBind :
      (run >>= fun value => Pure.pure (change value)).Follows
        (errors ++ []) (change value) (found ++ []) :=
    hRun.bind (.pure _)
  rw [List.append_nil, List.append_nil] at hBind
  exact hBind

/- A run that gives a value met no error. -/
theorem errors_eq_nil
    {run : Run α}
    {errors : List Error}
    {value other : α}
    {found : List Diagnostic}
    (hRun : run.Follows errors value found)
    {journal : Journal}
    (hOther : (run.start journal).1 = .ok other) :
    errors = [] := by
  cases errors with
  | nil => rfl
  | cons error errors =>
      have hError := hRun journal
      simp only [hOther] at hError
      cases hError

/- A run that meets no error gives the value. -/
theorem of_errors_eq_nil
    {run : Run α}
    {errors : List Error}
    {value : α}
    {found : List Diagnostic}
    (hRun : run.Follows errors value found)
    (hErrors : errors = [])
    (journal : Journal) :
    (run.start journal).1 = .ok value ∧
      (run.start journal).2.diagnostics =
        journal.diagnostics ++ found := by
  subst hErrors
  exact hRun journal

/- A run fails with the first of its errors, if it has one. -/
theorem eq_error_iff
    {run : Run α}
    {errors : List Error}
    {value : α}
    {found : List Diagnostic}
    (hRun : run.Follows errors value found)
    (journal : Journal)
    (error : Error) :
    (run.start journal).1 = .error error ↔
      errors.head? = some error := by
  have hStart := hRun journal
  cases errors with
  | nil => simp [hStart.1]
  | cons first errors =>
      simp only at hStart
      simp [hStart]

/- A run that gives a value gives the one that is described. -/
theorem of_ok
    {run : Run α}
    {errors : List Error}
    {value other : α}
    {found : List Diagnostic}
    (hRun : run.Follows errors value found)
    {journal : Journal}
    (hOther : (run.start journal).1 = .ok other) :
    errors = [] ∧ value = other ∧
      (run.start journal).2.diagnostics =
        journal.diagnostics ++ found := by
  have hErrors := hRun.errors_eq_nil hOther
  subst hErrors
  rcases hRun journal with ⟨hValue, hFound⟩
  rw [hOther] at hValue
  exact ⟨rfl, (Except.ok.inj hValue).symm, hFound⟩

end Follows

end Run

end TextMate
