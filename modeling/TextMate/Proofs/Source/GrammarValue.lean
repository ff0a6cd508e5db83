import TextMate.Proofs.Grammar.Repository
import TextMate.Proofs.Source.RuleValue
import TextMate.Proofs.Source.Split

/-
  This file proves that the source of a grammar comes to the
  grammar with its patterns read back, where the items that it
  names are imported and each entry that it calls gives its
  rule.

  Main declarations:
    * `evaluate_merge`
    * `evaluate_extras`
    * `build_grammar`
    * `evaluate_ofGrammar`
-/

namespace TextMate

namespace Source

section Values

variable {names : Names}

------------------------------------------------------------
-- Entries
------------------------------------------------------------

/- An entry gives its rule with its patterns read back. -/
def GivesEntry
    (names : Names)
    (entry : String × Rule) : Prop :=
  names.entry (identifier entry.1) =
    .ok (.rule (entry.2.mapPatterns .reread))

/- An entry that is called comes to what it gives. -/
theorem evaluate_entry
    {name : String}
    {value : Value}
    (hValue : names.entry name = .ok value) :
    (Expr.call (.entry name) []).term.evaluate names =
      .ok value :=
  hValue

/- The entries with the patterns of their rules read back. -/
def rereadEntries
    (entries : List (String × Rule)) : List (String × Rule) :=
  entries.map fun entry =>
    (entry.1, entry.2.mapPatterns .reread)

/- The source of a repository whose entries are linked. -/
def ofLinks
    (links : Links) : Expr :=
  .checked
    (.apply .repository "merge" (.array (links.map ofLink)))

/- Linked entries come to the repository of their rules. -/
theorem evaluate_ofLinks
    {entries : List (String × Rule)}
    (hDistinct : (entries.map Prod.fst).Nodup)
    (hImported : Item.repository.name ∈ names.imports)
    (hEntries : ∀ entry ∈ entries, GivesEntry names entry) :
    (ofLinks (entryLinks entries)).term.evaluate names =
      .ok (.repository ⟨rereadEntries entries⟩) := by
  have hParts :
      Term.evaluateAll names
          (((entryLinks entries).map ofLink).map Expr.term) =
        .ok
          (entries.map fun entry =>
            .pair (.text entry.1)
              (.rule (entry.2.mapPatterns .reread))) := by
    simp only [entryLinks, List.map_map, Function.comp_def,
      ofLink]
    exact
      evaluateAll_map fun entry hEntry =>
        evaluate_pair rfl
          (evaluate_entry (hEntries entry hEntry))
  have hPairs :
      (entries.map fun entry =>
          Value.pair (.text entry.1)
            (.rule (entry.2.mapPatterns .reread))).mapM
          Value.entry? =
        some (rereadEntries entries) :=
    mapM_map_eq_some fun _ _ => rfl
  have hNames :
      (rereadEntries entries).map Prod.fst =
        entries.map Prod.fst := by
    rw [rereadEntries, List.map_map]
    rfl
  rw [← hNames] at hDistinct
  have hMerge :
      (Expr.apply .repository "merge"
          (.array
            ((entryLinks entries).map ofLink))).term.evaluate
              names =
        .ok
          (.succeeded
            (.repository ⟨rereadEntries entries⟩)) := by
    apply evaluate_apply hImported (evaluate_array hParts)
    show (List.mapM Value.entry? _).map _ = _
    rw [hPairs, Option.map_some,
      Repository.ofEntries_of_nodup hDistinct]
  simp only [ofLinks, Expr.term, Term.evaluate, hMerge]
  rfl

------------------------------------------------------------
-- Root Fields
------------------------------------------------------------

/- What the source of a root field comes to. -/
def extraPair
    (extra : String × ExtraValue) : Value :=
  .pair (.converted (.text extra.1)) (.extraValue extra.2)

/- A root field comes to its key with its value. -/
theorem evaluate_ofExtra
    (extra : String × ExtraValue)
    (hImported : Item.extraValue.name ∈ names.imports) :
    (ofExtra extra).term.evaluate names =
      .ok (extraPair extra) := by
  rcases extra with ⟨key, value⟩
  refine evaluate_pair rfl ?_
  cases value with
  | text value => exact evaluate_apply hImported rfl rfl
  | list values =>
      have hRow :
          (Expr.row (values.map .owned)).term.evaluate names =
            .ok
              (.vector
                (values.map fun value =>
                  .converted (.text value))) := by
        apply evaluate_vector
        rw [List.map_map]
        exact evaluateAll_map fun _ _ => rfl
      have hTexts :
          (values.map fun value =>
              Value.converted (.text value)).mapM
              Value.ownedText? =
            some (values.map id) :=
        mapM_map_eq_some fun _ _ => rfl
      apply evaluate_apply hImported hRow
      show
        ((List.mapM Value.ownedText? _).map fun texts =>
            Value.extraValue (.list texts)) = _
      rw [hTexts, List.map_id]
      rfl

/- The values of root fields, in order. -/
def extraValues
    (extras : List (String × ExtraValue)) : Value :=
  .vector (extras.map extraPair)

/- Root fields are read in order. -/
theorem extras?_extraValues
    (extras : List (String × ExtraValue)) :
    (extraValues extras).extras? = some extras := by
  have hPairs :
      (extras.map extraPair).mapM Value.extra? =
        some (extras.map id) :=
    mapM_map_eq_some fun _ _ => rfl
  rw [extraValues, Value.extras?, hPairs, List.map_id]

------------------------------------------------------------
-- Grammars
------------------------------------------------------------

/- The values of the rules of a list, in order. -/
def ruleValues
    (rules : List Rule) : Value :=
  .vector
    (rules.map fun rule => .rule (rule.mapPatterns .reread))

/- The fields of the record for a grammar, with their values. -/
def grammarValues
    (grammar : Grammar) : List (String × Value) :=
  [("name", Value.converted (.text grammar.name)),
    ("scope_name", Value.converted (.text grammar.scopeName))] ++
    (match grammar.injectionSelector with
      | some selector =>
          [("injection_selector",
            Value.present (.converted (.text selector)))]
      | none => []) ++
    [("patterns", ruleValues grammar.patterns)] ++
    (if (entryLinks grammar.repository.entries).isEmpty then []
      else
        [("repository",
          Value.repository
            ⟨rereadEntries grammar.repository.entries⟩)]) ++
    (if grammar.extra.isEmpty then []
      else
        [("extra", extraValues grammar.extra)])

/- The rules of a list are read in order. -/
theorem rules?_ruleValues
    (rules : List Rule) :
    (ruleValues rules).rules? =
      some (rules.map fun rule => rule.mapPatterns .reread) :=
  mapM_map_eq_some fun _ _ => rfl

/- The fields build the grammar with its patterns read back. -/
theorem build_grammar
    (grammar : Grammar) :
    buildItem "Grammar" (grammarValues grammar)
        (if isWhole grammar
            (entryLinks grammar.repository.entries)
          then none
          else some (.grammar .empty)) =
      some (.grammar (grammar.mapPatterns .reread)) := by
  rcases grammar with
    ⟨name, scopeName, selector, rules, ⟨entries⟩, extra⟩
  have hRules := rules?_ruleValues rules
  have hExtras := extras?_extraValues extra
  cases selector <;> cases entries <;> cases extra <;>
    simp [buildItem, grammarValues, isWhole, entryLinks, build,
      grammarFieldNames, setGrammarField, Value.ownedText?,
      Value.present?, Value.repository?, hRules, hExtras,
      Grammar.mapPatterns, Grammar.empty, Repository.empty,
      rereadEntries]

/- The one field of a list comes to its value. -/
theorem evaluateFields_single
    {name : String}
    {expr : Expr}
    {value : Value}
    (hValue : expr.term.evaluate names = .ok value) :
    Term.evaluateFields names (Expr.fieldTerms [(name, expr)]) =
      .ok [(name, value)] := by
  simp only [Expr.fieldTerms, Term.evaluateFields, hValue]
  rfl

/- The rules of a list come to their values, in order. -/
theorem evaluate_ofRules
    {rules : List Rule}
    (hKeyed : ∀ rule ∈ rules, rule.Keyed)
    (hCovers : names.Covers (Expr.partItems (ofRules rules))) :
    (Expr.vector (ofRules rules)).term.evaluate names =
      .ok (ruleValues rules) := by
  rw [ofRules_eq_map] at hCovers ⊢
  apply evaluate_vector
  rw [List.map_map]
  exact
    evaluateAll_map fun rule hRule =>
      evaluate_ofRule (hKeyed rule hRule)
        (hCovers.part (List.mem_map_of_mem hRule))

/- The root fields of a list come to their values, in order. -/
theorem evaluate_extras
    {extras : List (String × ExtraValue)}
    (hCovers :
      names.Covers (Expr.partItems (extras.map ofExtra))) :
    (Expr.vector (extras.map ofExtra)).term.evaluate names =
      .ok (extraValues extras) := by
  apply evaluate_vector
  rw [List.map_map]
  refine evaluateAll_map fun extra hExtra => ?_
  have hPart : names.Covers (ofExtra extra).items :=
    hCovers.part (List.mem_map_of_mem hExtra)
  apply evaluate_ofExtra
  apply hPart
  rcases extra with ⟨key, value⟩
  cases value <;> exact List.mem_cons_self

section Grammars

variable {grammar : Grammar}
variable (hKeyed : ∀ rule ∈ grammar.patterns, rule.Keyed)
variable (hDistinct : grammar.repository.names.Nodup)
variable
  (hEntries :
    ∀ entry ∈ grammar.repository.entries,
      GivesEntry names entry)

include hKeyed hDistinct hEntries

/- The fields of the record for a grammar come to values. -/
theorem evaluate_grammarFields
    {links : Links}
    (hLinks : links = entryLinks grammar.repository.entries)
    (hCovers :
      names.Covers
        (Expr.fieldItems (grammarFields grammar links))) :
    Term.evaluateFields names
        (Expr.fieldTerms (grammarFields grammar links)) =
      .ok (grammarValues grammar) := by
  have hPatterns :
      (Expr.vector (ofRules grammar.patterns)).term.evaluate
          names =
        .ok (ruleValues grammar.patterns) := by
    have hField :
        ("patterns", .vector (ofRules grammar.patterns)) ∈
          grammarFields grammar links := by
      simp [grammarFields]
    exact evaluate_ofRules hKeyed (hCovers.field hField)
  have hRepository :
      ¬links.isEmpty = true →
        (ofLinks links).term.evaluate names =
          .ok
            (.repository
              ⟨rereadEntries grammar.repository.entries⟩) := by
    intro hSome
    have hField :
        ("repository", ofLinks links) ∈
          grammarFields grammar links := by
      simp [grammarFields, ofLinks, hSome]
    have hImported := (hCovers.field hField).cons.1
    rw [hLinks]
    exact evaluate_ofLinks hDistinct hImported hEntries
  have hExtra :
      ¬grammar.extra.isEmpty = true →
        (Expr.vector (grammar.extra.map ofExtra)).term.evaluate
            names =
          .ok (extraValues grammar.extra) := by
    intro hSome
    have hField :
        ("extra", .vector (grammar.extra.map ofExtra)) ∈
          grammarFields grammar links := by
      simp [grammarFields, hSome]
    exact evaluate_extras (hCovers.field hField)
  unfold grammarFields grammarValues
  rw [Expr.fieldTerms_append, Expr.fieldTerms_append,
    Expr.fieldTerms_append, Expr.fieldTerms_append, ← hLinks]
  refine
    evaluateFields_append
      (evaluateFields_append
        (evaluateFields_append
          (evaluateFields_append ?names ?selector)
          (evaluateFields_single hPatterns))
        ?repository)
      ?extra
  case names => rfl
  case selector => cases grammar.injectionSelector <;> rfl
  case repository =>
    split
    · rfl
    · rename_i hSome
      exact evaluateFields_single (hRepository hSome)
  case extra =>
    split
    · rfl
    · rename_i hSome
      exact evaluateFields_single (hExtra hSome)

/- The source of a grammar comes to the grammar reread. -/
theorem evaluate_ofGrammar
    {links : Links}
    (hLinks : links = entryLinks grammar.repository.entries)
    (hCovers : names.Covers (ofGrammar grammar links).items) :
    (ofGrammar grammar links).term.evaluate names =
      .ok
        (.succeeded
          (.grammar (grammar.mapPatterns .reread))) := by
  have hRecord :
      names.Covers
        (Item.grammar ::
          Expr.fieldItems (grammarFields grammar links)) :=
    hCovers.part List.mem_cons_self
  rcases hRecord.cons with ⟨hImported, hFields⟩
  have hValues :=
    evaluate_grammarFields hKeyed hDistinct hEntries hLinks
      hFields
  have hBuilt := build_grammar grammar
  rw [← hLinks] at hBuilt
  have hGrammar :
      (Expr.record .grammar (grammarFields grammar links)
          (isWhole grammar links)).term.evaluate names =
        .ok (.grammar (grammar.mapPatterns .reread)) :=
    evaluate_record hImported hValues rfl hBuilt
  simp only [ofGrammar, Expr.term, Expr.partTerms,
    Term.evaluate, Term.evaluateAll] at hGrammar ⊢
  rw [hGrammar]
  rfl

end Grammars

end Values

end Source

end TextMate
