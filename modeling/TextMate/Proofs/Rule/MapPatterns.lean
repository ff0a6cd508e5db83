import TextMate.Proofs.Pattern
import TextMate.Proofs.Rule.Every

/-
  This file defines the replacement of all pattern values of a
  rule or a grammar, at any depth.

  Two replacements matter.  A generated source and a document
  both write a pattern as its text, so what is read back has
  the pattern of that text: `PatternValue.reread` where a
  plain text is told apart, `PatternValue.recompiled` where it
  is not.

  Main declarations:
    * `Rule.mapPatterns`
    * `Rule.get?_mapPatterns`
    * `Rule.mapPatterns_eq_self`
    * `Grammar.mapPatterns`
    * `PatternValue.reread`
    * `PatternValue.recompiled`
    * `Grammar.mapPatterns_recompiled`
-/

namespace TextMate

------------------------------------------------------------
-- Replacement in Rules
------------------------------------------------------------

namespace Rule

/- Replace the pattern values of a rule. -/
mutual

def mapPatterns
    (change : PatternValue → PatternValue) : Rule → Rule
  | ⟨i, m, b, e, w, n, c, cs, bs, es, ws, ps⟩ =>
      ⟨i, m.map change, b.map change, e.map change,
        w.map change, n, c, mapCaptures? change cs,
        mapCaptures? change bs, mapCaptures? change es,
        mapCaptures? change ws, mapRules? change ps⟩
termination_by structural x => x

/- Replace the pattern values of captures, if there are any. -/
def mapCaptures?
    (change : PatternValue → PatternValue) :
    Option (List (UInt32 × Rule)) → Option Captures
  | none => none
  | some captures => some (mapCaptures change captures)
termination_by structural x => x

/- Replace the pattern values of captures. -/
def mapCaptures
    (change : PatternValue → PatternValue) :
    List (UInt32 × Rule) → Captures
  | [] => []
  | (index, rule) :: rest =>
      (index, mapPatterns change rule) ::
        mapCaptures change rest
termination_by structural x => x

/- Replace the pattern values of rules, if there are any. -/
def mapRules?
    (change : PatternValue → PatternValue) :
    Option (List Rule) → Option (List Rule)
  | none => none
  | some rules => some (mapRules change rules)
termination_by structural x => x

/- Replace the pattern values of rules. -/
def mapRules
    (change : PatternValue → PatternValue) :
    List Rule → List Rule
  | [] => []
  | rule :: rest =>
      mapPatterns change rule :: mapRules change rest
termination_by structural x => x

end

theorem mapCaptures_eq_map
    (change : PatternValue → PatternValue)
    (captures : Captures) :
    mapCaptures change captures =
      captures.map fun entry =>
        (entry.1, entry.2.mapPatterns change) := by
  induction captures with
  | nil => rfl
  | cons entry rest ih =>
      rw [mapCaptures, ih]
      rfl

theorem mapRules_eq_map
    (change : PatternValue → PatternValue)
    (rules : List Rule) :
    mapRules change rules =
      rules.map fun rule => rule.mapPatterns change := by
  induction rules with
  | nil => rfl
  | cons rule rest ih =>
      rw [mapRules, ih]
      rfl

end Rule

/- Replace the pattern values in the value of a field. -/
def FieldValue.mapPatterns
    (change : PatternValue → PatternValue) :
    FieldValue → FieldValue
  | .pattern value => .pattern (change value)
  | .label value => .label value
  | .captures entries =>
      .captures
        (entries.map fun entry =>
          (entry.1, entry.2.mapPatterns change))
  | .children rules =>
      .children
        (rules.map fun rule => rule.mapPatterns change)

namespace Rule

/- A replacement acts on the value of each field. -/
theorem get?_mapPatterns
    (change : PatternValue → PatternValue)
    (rule : Rule)
    (field : Field) :
    (rule.mapPatterns change).get? field =
      (rule.get? field).map
        (FieldValue.mapPatterns change) := by
  have hCaptures :
      ∀ captures : Option Captures,
        (mapCaptures? change captures).map .captures =
          (captures.map .captures).map
            (FieldValue.mapPatterns change) := by
    intro captures
    cases captures with
    | none => rfl
    | some captures =>
        simp [mapCaptures?, FieldValue.mapPatterns,
          mapCaptures_eq_map]
  have hRules :
      ∀ rules : Option (List Rule),
        (mapRules? change rules).map .children =
          (rules.map .children).map
            (FieldValue.mapPatterns change) := by
    intro rules
    cases rules with
    | none => rfl
    | some rules =>
        simp [mapRules?, FieldValue.mapPatterns,
          mapRules_eq_map]
  cases rule
  cases field <;>
    simp [mapPatterns, get?, hCaptures, hRules,
      FieldValue.mapPatterns, Function.comp_def]

/- A replacement that keeps each pattern keeps the rule. -/
theorem mapPatterns_eq_self
    {change : PatternValue → PatternValue}
    {rule : Rule}
    (hEvery :
      rule.Every fun _ value =>
        ∀ pattern, value = .pattern pattern →
          change pattern = pattern) :
    rule.mapPatterns change = rule := by
  induction rule using Rule.induction with
  | step rule ih =>
      apply ext_get?
      intro field
      rw [get?_mapPatterns]
      cases hValue : rule.get? field with
      | none => rfl
      | some value =>
          have hInner :
              ∀ inner ∈ value.rules,
                inner.mapPatterns change = inner :=
            fun inner hInner =>
              ih field value hValue inner hInner
                (hEvery.nested hValue hInner)
          have hSame : value.mapPatterns change = value := by
            cases value with
            | label value => rfl
            | pattern pattern =>
                exact congrArg FieldValue.pattern
                  (hEvery.own hValue pattern rfl)
            | captures entries =>
                refine congrArg FieldValue.captures
                  ((List.map_congr_left ?_).trans
                    (List.map_id' entries))
                intro entry hEntry
                rw [hInner entry.2
                  (List.mem_map_of_mem hEntry)]
            | children rules =>
                exact congrArg FieldValue.children
                  ((List.map_congr_left hInner).trans
                    (List.map_id' rules))
          exact congrArg some hSame

end Rule

------------------------------------------------------------
-- Replacement in Grammars
------------------------------------------------------------

namespace Grammar

/- Replace the pattern values of all rules of a grammar. -/
def mapPatterns
    (change : PatternValue → PatternValue)
    (grammar : Grammar) : Grammar :=
  { grammar with
    patterns :=
      grammar.patterns.map fun rule =>
        rule.mapPatterns change
    repository :=
      ⟨grammar.repository.entries.map fun entry =>
        (entry.1, entry.2.mapPatterns change)⟩ }

/- A replacement that keeps each pattern keeps the grammar. -/
theorem mapPatterns_eq_self
    {change : PatternValue → PatternValue}
    {grammar : Grammar}
    (hEvery :
      grammar.Every fun _ value =>
        ∀ pattern, value = .pattern pattern →
          change pattern = pattern) :
    grammar.mapPatterns change = grammar := by
  rcases grammar with
    ⟨name, scopeName, selector, patterns, ⟨entries⟩, extra⟩
  have hPatterns :
      patterns.map (fun rule => rule.mapPatterns change) =
        patterns :=
    (List.map_congr_left fun rule hRule =>
      Rule.mapPatterns_eq_self (hEvery.2 rule hRule)).trans
      (List.map_id' patterns)
  have hEntries :
      entries.map
          (fun entry =>
            (entry.1, entry.2.mapPatterns change)) =
        entries := by
    refine (List.map_congr_left ?_).trans
      (List.map_id' entries)
    intro entry hEntry
    rw [Rule.mapPatterns_eq_self (hEvery.1 entry hEntry)]
  simp only [mapPatterns, hPatterns, hEntries]

end Grammar

------------------------------------------------------------
-- Patterns Read Back
------------------------------------------------------------

namespace PatternValue

/-
  The value for the text of a value, where a pattern is told
  from a plain text.
-/
def reread : PatternValue → PatternValue
  | .compiled pattern => .compiled (.ofText pattern.text)
  | .verbatim text => .verbatim text

/- The pattern for the text of a value. -/
def recompiled
    (value : PatternValue) : PatternValue :=
  .compiled (.ofText value.toText)

end PatternValue

/- A pattern is that of a text, as every pattern read is. -/
def FieldValue.OfText : FieldValue → Prop
  | .pattern value =>
      ∃ text, value = .compiled (.ofText text)
  | .label _ | .captures _ | .children _ => True

/- Patterns of texts come back as they are. -/
theorem Grammar.mapPatterns_recompiled
    {grammar : Grammar}
    (hOfText : grammar.Every fun _ value => value.OfText) :
    grammar.mapPatterns .recompiled = grammar := by
  apply Grammar.mapPatterns_eq_self
  refine hOfText.mono ?_
  rintro _ _ hRead pattern rfl
  rcases hRead with ⟨text, rfl⟩
  rw [PatternValue.recompiled, PatternValue.toText,
    Pattern.text_ofText]

end TextMate
