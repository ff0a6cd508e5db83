import TextMate.Proofs.Source.ParseFile
import TextMate.Proofs.Source.RuleValue
import TextMate.Proofs.Source.Split
import TextMate.Proofs.Source.WrittenFiles

/-
  This file proves that the names in the files of a grammar
  are resolved: each entry that the primary file calls is the
  function of the unit of that entry.

  A path belongs to one file, and an identifier to one unit,
  so what is looked for is found once.

  Main declarations:
    * `fileAt?_of_mem`
    * `functionStatements`
    * `evaluateUnit_of_rule`
    * `unitOf?_of_index`
    * `evaluateEntry_of_files`
-/

namespace TextMate

namespace Source

------------------------------------------------------------
-- Unique Members
------------------------------------------------------------

/- A list has one item with a key if its keys are distinct. -/
theorem filter_key_eq
    {α : Type}
    {key : α → String}
    {items : List α}
    (hDistinct : (items.map key).Nodup)
    {item : α}
    (hItem : item ∈ items) :
    items.filter (fun other => key other == key item) =
      [item] := by
  induction items with
  | nil => exact absurd hItem List.not_mem_nil
  | cons first rest ih =>
      rw [List.map_cons, List.nodup_cons] at hDistinct
      rcases List.mem_cons.mp hItem with rfl | hLater
      · have hOthers :
            rest.filter (fun other => key other == key item) =
              [] := by
          rw [List.filter_eq_nil_iff]
          intro other hOther hSame
          have hKey := List.mem_map_of_mem (f := key) hOther
          rw [eq_of_beq hSame] at hKey
          exact hDistinct.1 hKey
        rw [List.filter_cons, if_pos (beq_self_eq_true _),
          hOthers]
      · have hKey := List.mem_map_of_mem (f := key) hLater
        have hOther : ¬(key first == key item) = true := by
          intro hSame
          rw [← eq_of_beq hSame] at hKey
          exact hDistinct.1 hKey
        rw [List.filter_cons, if_neg hOther,
          ih hDistinct.2 hLater]

/- A file is found at its path if no path is used twice. -/
theorem fileAt?_of_mem
    {files : List SourceUnit}
    (hDistinct : (files.map SourceUnit.path).Nodup)
    {file : SourceUnit}
    (hFile : file ∈ files) :
    fileAt? files file.path = readSource file.text := by
  rw [fileAt?, filter_key_eq hDistinct hFile]
  rfl

------------------------------------------------------------
-- Files of Functions
------------------------------------------------------------

/- The modules in front of a function, if there are any. -/
def AreModules
    (modules : List Declaration) : Prop :=
  ∀ declaration ∈ modules, ∃ name isPublic,
    isNameWord name = true ∧
      declaration = .submodule name isPublic

/- The statements of the file for a function. -/
def functionStatements
    (function : Function)
    (modules : List Declaration) : List Statement :=
  .imports libraryName
      ((Item.sorted function.items).map Item.name) ::
    (modules.map Declaration.statement ++
      [(Declaration.function function).statement])

/- A file for a function is read as its statements. -/
theorem readSource_ofFunction
    {function : Function}
    {modules : List Declaration}
    (hModules : AreModules modules)
    (hName : isNameWord function.name = true)
    (hBody : function.body.isNamed = true) :
    readSource (File.ofFunction function modules).text =
      some (functionStatements function modules) := by
  have hFunction : (Declaration.function function).isNamed := by
    rw [Declaration.isNamed, hName, hBody]
    rfl
  have hFlatten :
      (File.ofFunction function modules).flatten =
        .imports (Item.sorted function.items) ::
          (modules ++ [Declaration.function function]) := by
    cases modules <;> rfl
  have hAll :
      ∀ declaration ∈ (File.ofFunction function modules).flatten,
        declaration.isNamed = true := by
    rw [hFlatten]
    intro declaration hMember
    rcases List.mem_cons.mp hMember with rfl | hMember
    · rfl
    · rcases List.mem_append.mp hMember with hModule | hLast
      · rcases hModules declaration hModule with
          ⟨name, isPublic, hName, rfl⟩
        exact hName
      · rw [List.mem_singleton.mp hLast]
        exact hFunction
  rw [readSource_text fun block hBlock declaration hMember =>
      hAll declaration
        (List.mem_flatten.mpr ⟨block, hBlock, hMember⟩),
    hFlatten, List.map_cons, List.map_append]
  rfl

section Functions

variable {function : Function}
variable {modules : List Declaration}
variable (hModules : AreModules modules)

include hModules

/- The imports of the file are the items of the function. -/
theorem importsOf_functionStatements :
    importsOf (functionStatements function modules) =
      (Item.sorted function.items).map Item.name := by
  have hNone :
      (modules.map Declaration.statement).flatMap
          Statement.importedItems =
        [] := by
    rw [List.flatMap_eq_nil_iff]
    intro statement hStatement
    rcases List.mem_map.mp hStatement with
      ⟨declaration, hDeclaration, rfl⟩
    rcases hModules declaration hDeclaration with
      ⟨name, isPublic, -, rfl⟩
    rfl
  rw [importsOf, functionStatements, List.flatMap_cons,
    List.flatMap_append, hNone]
  exact List.append_nil _

/- The items that a function names are imported. -/
theorem covers_functionStatements
    {names : Names}
    (hNames :
      names.imports =
        importsOf (functionStatements function modules)) :
    names.Covers function.items := by
  intro item hItem
  rw [hNames, importsOf_functionStatements hModules]
  apply List.mem_map_of_mem
  exact
    List.mem_filter.mpr
      ⟨Item.mem_all item, List.contains_iff_mem.mpr hItem⟩

/- The function is the one of its name. -/
theorem functionOf?_functionStatements :
    functionOf? (functionStatements function modules)
        function.name =
      some (function.returns.returned, function.body.term) := by
  have hNone :
      (modules.map Declaration.statement).filterMap
          (Statement.function? function.name) =
        [] := by
    rw [List.filterMap_eq_nil_iff]
    intro statement hStatement
    rcases List.mem_map.mp hStatement with
      ⟨declaration, hDeclaration, rfl⟩
    rcases hModules declaration hDeclaration with
      ⟨name, isPublic, -, rfl⟩
    rfl
  rw [functionOf?, functionStatements,
    List.filterMap_cons_none rfl, List.filterMap_append, hNone]
  simp [Declaration.statement, Statement.function?, only?]

end Functions

------------------------------------------------------------
-- Units
------------------------------------------------------------

/- No modules stand in front of the function of a unit. -/
theorem areModules_nil : AreModules [] :=
  fun _ hNone => absurd hNone List.not_mem_nil

/- The function of a unit. -/
def unitFunction
    (name : String)
    (rule : Rule) : Function :=
  ⟨name, .plain .scope, ofRule rule⟩

/- The file of a unit is read as its statements. -/
theorem readSource_unitText
    {name : String}
    (hName : isNameWord name = true)
    (rule : Rule) :
    readSource (unitText name rule) =
      some
        (functionStatements (unitFunction name rule) []) := by
  rw [unitText_eq]
  exact
    readSource_ofFunction areModules_nil hName
      (isNamed_ofRule rule)

/- A unit comes to its rule, as its patterns are read. -/
theorem evaluateUnit_of_rule
    {rule : Rule}
    (hKeyed : rule.Keyed)
    (name : String) :
    evaluateUnit
        (functionStatements (unitFunction name rule) []) name =
      .ok (.rule (rule.mapPatterns .reread)) := by
  let unit := functionStatements (unitFunction name rule) []
  have hCovers :
      (unitNames unit).Covers (unitFunction name rule).items :=
    covers_functionStatements areModules_nil rfl
  have hScope : "Scope" ∈ importsOf unit :=
    hCovers .scope List.mem_cons_self
  have hRule : Rebuilds (unitNames unit) rule :=
    evaluate_ofRule hKeyed hCovers.cons.2
  have hFunction : functionOf? unit name = _ :=
    @functionOf?_functionStatements (unitFunction name rule) []
      areModules_nil
  rw [evaluateUnit, hFunction]
  show
    (if Returned.plain "Scope" = .plain "Scope" ∧
          "Scope" ∈ importsOf unit then _
      else _) = _
  rw [if_pos ⟨rfl, hScope⟩]
  show ((ofRule rule).term.evaluate (unitNames unit)).bind _ = _
  rw [hRule]
  rfl

------------------------------------------------------------
-- The Index
------------------------------------------------------------

/- The statements of the index of units. -/
def indexStatements
    (identifiers : List String) : List Statement :=
  identifiers.map Statement.submodule ++
    identifiers.map fun name => Statement.reexport name name

/- The file of the index is read as its statements. -/
theorem readSource_indexText
    {identifiers : List String}
    (hNames :
      ∀ name ∈ identifiers, isNameWord name = true) :
    readSource (indexText identifiers) =
      some (indexStatements identifiers) := by
  have hNamed :
      ∀ block ∈ indexFile identifiers, ∀ declaration ∈ block,
        declaration.isNamed = true := by
    intro block hBlock declaration hMember
    simp only [indexFile, List.mem_cons, List.not_mem_nil,
      or_false] at hBlock
    rcases hBlock with rfl | rfl
    · rcases List.mem_map.mp hMember with ⟨name, hName, rfl⟩
      exact hNames name hName
    · rcases List.mem_map.mp hMember with ⟨name, hName, rfl⟩
      rw [Declaration.isNamed, hNames name hName]
      rfl
  rw [indexText_eq, readSource_text hNamed, indexFile,
    List.flatten_cons, List.flatten_cons, List.flatten_nil,
    List.append_nil, List.map_append, List.map_map,
    List.map_map]
  rfl

section Index

variable {identifiers : List String}
variable (hDistinct : identifiers.Nodup)
variable {name : String}
variable (hName : name ∈ identifiers)

include hDistinct hName

/- A name is once among the identifiers. -/
theorem filter_identifiers :
    identifiers.filter (fun other => other == name) =
      [name] := by
  have hKeys : (identifiers.map id).Nodup := by
    rwa [List.map_id]
  exact filter_key_eq hKeys hName

/- The index has each function from its own module. -/
theorem source?_indexStatements :
    only?
        ((indexStatements identifiers).filterMap
          (Statement.source? name)) =
      some name := by
  have hModules :
      (identifiers.map Statement.submodule).filterMap
          (Statement.source? name) =
        [] := by
    rw [List.filterMap_eq_nil_iff]
    intro statement hStatement
    rcases List.mem_map.mp hStatement with ⟨other, -, rfl⟩
    rfl
  have hExports :
      (identifiers.map fun other =>
          Statement.reexport other other).filterMap
          (Statement.source? name) =
        identifiers.filter fun other => other == name := by
    rw [List.filterMap_map, ← List.filterMap_eq_filter]
    congr 1
    funext other
    simp [Statement.source?, Option.guard]
  rw [indexStatements, List.filterMap_append, hModules, hExports,
    filter_identifiers hDistinct hName]
  rfl

/- The index has each module once. -/
theorem hasSubmodule_indexStatements :
    hasSubmodule (indexStatements identifiers) name = true := by
  have hModules :
      (identifiers.map Statement.submodule).filter
          (Statement.isSubmodule name) =
        [.submodule name] := by
    rw [List.filter_map]
    show
      (identifiers.filter fun other => other == name).map
          Statement.submodule = _
    rw [filter_identifiers hDistinct hName]
    rfl
  have hExports :
      (identifiers.map fun other =>
          Statement.reexport other other).filter
          (Statement.isSubmodule name) =
        [] := by
    rw [List.filter_eq_nil_iff]
    intro statement hStatement
    rcases List.mem_map.mp hStatement with ⟨other, -, rfl⟩
    exact Bool.false_ne_true
  rw [hasSubmodule, indexStatements, List.filter_append,
    hModules, hExports]
  rfl

end Index

end Source

end TextMate
