import TextMate.Proofs.Document.ReadBack
import TextMate.Proofs.Document.ReadWithin
import TextMate.Proofs.Import.Lasting

/-
  This file proves that normalizing is a fixed point: the text
  of an imported grammar is read, imported and written again
  without a change.

  Main declarations:
    * `Grammar.Lasting`
    * `normalText?`
    * `normalText_fixed`
-/

namespace TextMate

open Import

/- A grammar of which an import keeps everything. -/
structure Grammar.Lasting
    (check : Acceptance)
    (grammar : Grammar) : Prop where
  every : grammar.Every (Acceptance.Lasting check)
  names : grammar.repository.names.Nodup
  extra : (grammar.extra.map Prod.fst).Nodup

namespace Grammar.Lasting

variable {check : Acceptance}
variable {grammar : Grammar}

/- What an import keeps of a document lasts. -/
theorem of_importGrammar
    {document : Document}
    (hWithin : document.Within Json.Number.Any)
    {journal : Journal}
    (hImport :
      ((importGrammar check document).start journal).1 =
        .ok grammar) :
    grammar = document.kept check ∧ grammar.Lasting check := by
  have hRun := importGrammar_follows check document
  have hErrors := hRun.errors_eq_nil hImport
  have hStart := hRun journal
  rw [hErrors] at hStart
  have hKept : grammar = document.kept check := by
    rw [hStart.1] at hImport
    exact (Except.ok.inj hImport).symm
  refine ⟨hKept, ?_⟩
  rw [hKept]
  constructor
  · exact document.lasting_kept check hWithin
  · rw [Document.kept, Repository.names, List.map_map]
    exact Document.nodup_names_of_errors hErrors
  · exact Document.nodup_keys_keptExtra hWithin.keys

/- A grammar that lasts comes back from its document. -/
theorem follows
    (hLasting : grammar.Lasting check) :
    (importGrammar check grammar.toDocument).Follows [] grammar
      (grammar.extra.map fun field =>
        ⟨.warning, field.1, .unrecognizedField⟩) := by
  have hRun := importGrammar_follows check grammar.toDocument
  have hKeyed : grammar.Keyed :=
    ⟨hLasting.every.mono fun _ _ hLasts => hLasts.keyed,
      hLasting.names⟩
  have hAccepts :=
    hLasting.every.mono fun _ _ hLasts => hLasts.accepted
  have hOfText :=
    hLasting.every.mono fun _ _ hLasts => hLasts.ofText
  rw [grammar.errors_toDocument check hLasting.names,
    grammar.kept_toDocument check hKeyed hLasting.extra
      hAccepts,
    Grammar.mapPatterns_recompiled hOfText,
    grammar.reports_toDocument check hKeyed hLasting.extra
      hAccepts,
    List.map_map] at hRun
  exact hRun

end Grammar.Lasting

/-
  The text of the grammar that a text is imported as, if the
  text is read and imported.
-/
def normalText?
    (check : Acceptance)
    (supply : Json.Supply)
    (journal : Journal)
    (text : String) : Option String := do
  let document ← (Document.ofText supply text).toOption
  let run := (importGrammar check document).start journal
  let grammar ← run.1.toOption
  return grammar.toDocument.text

/-
  Normalizing is a fixed point.  The text of the grammar that
  a text is imported as is read as the document that was
  written.  Its import gives the same grammar, reports each
  root field that is not modelled once and nothing else, and
  is written as the same text.
-/
theorem normalText_fixed
    {check : Acceptance}
    {supply : Json.Supply}
    {text : String}
    {document : Document}
    (hText : Document.ofText supply text = .ok document)
    {journal : Journal}
    {grammar : Grammar}
    (hImport :
      ((importGrammar check document).start journal).1 =
        .ok grammar)
    (again : Json.Supply)
    (later : Journal) :
    let normal := grammar.toDocument
    let run := (importGrammar check normal).start later
    normalText? check supply journal text = some normal.text ∧
      Document.ofText again normal.text = .ok normal ∧
      run.1 = .ok grammar ∧
      run.2.diagnostics =
        later.diagnostics ++
          grammar.extra.map (fun field =>
            ⟨.warning, field.1, .unrecognizedField⟩) ∧
      normalText? check again later normal.text =
        some normal.text := by
  intro normal run
  have hWithin := Document.within_of_ofText hText
  rcases Grammar.Lasting.of_importGrammar hWithin hImport with
    ⟨hKept, hLasting⟩
  have hNormal : normal.Within Json.Number.IsWord := by
    show grammar.toDocument.Within Json.Number.IsWord
    rw [hKept]
    exact document.within_toDocument_kept check hWithin
  have hRead := Document.ofText_text hNormal again
  have hRun := hLasting.follows later
  refine ⟨?_, hRead, hRun.1, hRun.2, ?_⟩
  · rw [normalText?, hText]
    simp only [Except.toOption, hImport, Option.bind_eq_bind,
      Option.bind_some]
    rfl
  · rw [normalText?, hRead]
    simp only [Except.toOption, Option.bind_eq_bind,
      Option.bind_some]
    rw [hRun.1]
    rfl

/-
  A text with a key that is there twice, a pattern that is
  refused, and a group whose key has a zero in front.
-/
def untidyText : String :=
  "\x7b\"uuid\":1,\"scopeName\":\"s\",\"name\":\"n\"," ++
    "\"patterns\":[\x7b\"match\":\"(\",\"captures\":" ++
    "\x7b\"01\":\x7b\"name\":\"a\"\x7d\x7d\x7d]," ++
    "\"uuid\":\"x\"\x7d"

/- The document that the text holds. -/
def untidyDocument : Document where
  name := "n"
  scopeName := "s"
  injectionSelector := none
  patterns :=
    [[("match", .string "("),
      ("captures",
        .object [("01", .object [("name", .string "a")])])]]
  repository := []
  extra := [("uuid", .string "x")]

-- The reader takes a step for each character of the text.
set_option maxRecDepth 10000 in
theorem ofText_untidyText :
    Document.ofText .memory untidyText = .ok untidyDocument := by
  with_unfolding_all rfl

/- The refused pattern and the zero are gone for good. -/
theorem normalText_fixed_untidyText :
    let check : Acceptance := fun text =>
      if text = "(" then some "refused" else none
    let grammar : Grammar :=
      { Grammar.empty with
        name := "n"
        scopeName := "s"
        patterns :=
          [{ Rule.empty with
              captures :=
                some [(1, { Rule.empty with name := some "a" })] }]
        extra := [("uuid", .text "x")] }
    let normal := grammar.toDocument
    normalText? check .memory .empty untidyText =
        some normal.text ∧
      Document.ofText .memory normal.text = .ok normal ∧
      normalText? check .memory .empty normal.text =
        some normal.text := by
  intro check grammar normal
  have hImport :
      ((importGrammar check untidyDocument).start
          Journal.empty).1 =
        .ok grammar := by
    rfl
  have hFixed :=
    normalText_fixed ofText_untidyText hImport .memory .empty
  exact ⟨hFixed.1, hFixed.2.1, hFixed.2.2.2.2⟩

end TextMate
