import Mathlib.Data.List.Induction
import Mathlib.Data.List.Perm.Subperm
import TextMate.Grammar
import TextMate.Proofs.Lookup
import TextMate.Proofs.Rule.Same

/-
  This file proves that repositories are tables with unique
  names, over any run of insertions.

  Entries make up a repository just if their names are distinct.
  It has the entries in their order, but equality goes by names:
  the same entries in another order make up an equal repository.
  An insertion adds one entry at the end, or fails and changes
  nothing, so what is there is never lost.

  Main declarations:
    * `Repository.contains_iff`
    * `Repository.tryInsert_eq`
    * `Repository.IsRepeat`
    * `Repository.ofEntries_of_nodup`
    * `Repository.ofEntries_of_isRepeat`
    * `Repository.Holds`
    * `Repository.same_iff_perm`
    * `Repository.insertEach`
    * `Repository.ofEntries_holds`
-/

namespace TextMate

namespace Repository

------------------------------------------------------------
-- Names
------------------------------------------------------------

/- The names of a repository are those that it has a rule for. -/
theorem contains_iff
    (repository : Repository)
    (name : String) :
    repository.contains name ↔ name ∈ repository.names := by
  unfold contains get? names
  induction repository.entries with
  | nil => simp
  | cons entry rest ih =>
      rw [List.lookup_cons, List.map_cons, List.mem_cons]
      cases hName : name == entry.1 with
      | true => simp [eq_of_beq hName]
      | false =>
          have hDistinct : name ≠ entry.1 :=
            ne_of_beq_false hName
          simp [ih, hDistinct]

/- A name that is taken cannot be inserted. -/
theorem tryInsert_of_mem
    {repository : Repository}
    {name : String}
    (hTaken : name ∈ repository.names)
    (rule : Rule) :
    repository.tryInsert name rule =
      (.error (.repositoryCollision name), repository) := by
  rw [tryInsert,
    if_pos ((repository.contains_iff name).mpr hTaken)]

/- A new name goes to the end. -/
theorem tryInsert_of_not_mem
    {repository : Repository}
    {name : String}
    (hNew : name ∉ repository.names)
    (rule : Rule) :
    repository.tryInsert name rule =
      (.ok (), ⟨repository.entries ++ [(name, rule)]⟩) := by
  rw [tryInsert,
    if_neg (mt (repository.contains_iff name).mp hNew)]

/-
  An insertion fails if its name is taken, and changes nothing.
  Otherwise it adds its entry at the end.
-/
theorem tryInsert_eq
    (repository : Repository)
    (name : String)
    (rule : Rule) :
    repository.tryInsert name rule =
      if name ∈ repository.names then
        (.error (.repositoryCollision name), repository)
      else
        (.ok (), ⟨repository.entries ++ [(name, rule)]⟩) := by
  by_cases hTaken : name ∈ repository.names
  · rw [tryInsert_of_mem hTaken, if_pos hTaken]
  · rw [tryInsert_of_not_mem hTaken, if_neg hTaken]

/- An insertion that succeeds gives the repository after it. -/
theorem insert_of_not_mem
    {repository : Repository}
    {name : String}
    (hNew : name ∉ repository.names)
    (rule : Rule) :
    repository.insert name rule =
      .ok ⟨repository.entries ++ [(name, rule)]⟩ := by
  rw [insert, tryInsert_of_not_mem hNew]

------------------------------------------------------------
-- Repositories of Entries
------------------------------------------------------------

/- Entries are added in parts. -/
theorem insertAll_append
    (repository : Repository)
    (first second : List (String × Rule)) :
    repository.insertAll (first ++ second) =
      (repository.insertAll first).bind fun next =>
        next.insertAll second := by
  induction first generalizing repository with
  | nil => rfl
  | cons entry rest ih =>
      rcases entry with ⟨name, rule⟩
      rw [List.cons_append, insertAll, insertAll]
      rcases repository.tryInsert name rule with
        ⟨_ | ⟨⟩, next⟩
      · rfl
      · exact ih next

/- Entries with new names are added in order. -/
theorem insertAll_of_nodup
    {before entries : List (String × Rule)}
    (hDistinct : ((before ++ entries).map Prod.fst).Nodup) :
    insertAll ⟨before⟩ entries = .ok ⟨before ++ entries⟩ := by
  induction entries generalizing before with
  | nil => rw [insertAll, List.append_nil]
  | cons entry entries ih =>
      rcases entry with ⟨name, rule⟩
      have hNew : name ∉ before.map Prod.fst := by
        intro hOld
        rw [List.map_append] at hDistinct
        exact
          (List.nodup_append.mp hDistinct).2.2 name hOld name
            List.mem_cons_self rfl
      rw [List.append_cons before] at hDistinct ⊢
      rw [insertAll, tryInsert_of_not_mem hNew]
      exact ih hDistinct

/- Entries with distinct names make up a repository. -/
theorem ofEntries_of_nodup
    {entries : List (String × Rule)}
    (hDistinct : (entries.map Prod.fst).Nodup) :
    ofEntries entries = .ok ⟨entries⟩ :=
  @insertAll_of_nodup [] entries hDistinct

/- An entry with a new name keeps names distinct. -/
theorem nodup_append_singleton
    {entries : List (String × Rule)}
    {entry : String × Rule}
    (hDistinct : (entries.map Prod.fst).Nodup)
    (hNew : entry.1 ∉ entries.map Prod.fst) :
    ((entries ++ [entry]).map Prod.fst).Nodup := by
  rw [List.map_append, List.map_singleton,
    ← List.concat_eq_append]
  exact hDistinct.concat hNew

/- The name of the first entry whose name occurred before. -/
def IsRepeat
    (entries : List (String × Rule))
    (name : String) : Prop :=
  ∃ before rule after,
    entries = before ++ (name, rule) :: after ∧
      (before.map Prod.fst).Nodup ∧
      name ∈ before.map Prod.fst

/- Entries whose names are not distinct repeat one first. -/
theorem exists_isRepeat
    {entries : List (String × Rule)}
    (hRepeated : ¬(entries.map Prod.fst).Nodup) :
    ∃ name, IsRepeat entries name := by
  induction entries using List.reverseRecOn with
  | nil => exact absurd List.nodup_nil hRepeated
  | append_singleton entries entry ih =>
      by_cases hDistinct : (entries.map Prod.fst).Nodup
      · refine ⟨entry.1, entries, entry.2, [], rfl, hDistinct, ?_⟩
        exact
          Decidable.byContradiction fun hNew =>
            hRepeated (nodup_append_singleton hDistinct hNew)
      · rcases ih hDistinct with
          ⟨name, before, rule, after, rfl, hBefore, hTaken⟩
        exact
          ⟨name, before, rule, after ++ [entry], by simp, hBefore,
            hTaken⟩

/- The first name that is repeated stops the insertion. -/
theorem ofEntries_of_isRepeat
    {entries : List (String × Rule)}
    {name : String}
    (hRepeat : IsRepeat entries name) :
    ofEntries entries = .error (.repositoryCollision name) := by
  rcases hRepeat with
    ⟨before, rule, after, rfl, hDistinct, hTaken⟩
  have hBefore : empty.insertAll before = .ok ⟨before⟩ :=
    ofEntries_of_nodup hDistinct
  rw [ofEntries, insertAll_append, hBefore]
  change insertAll ⟨before⟩ ((name, rule) :: after) = _
  rw [insertAll, tryInsert_of_mem hTaken]

------------------------------------------------------------
-- Contents
------------------------------------------------------------

/-
  A repository has entries in their order.  Their names are
  distinct, each leads to its own rule, and no other name leads
  to a rule.
-/
structure Holds
    (repository : Repository)
    (entries : List (String × Rule)) : Prop where
  entries_eq : repository.entries = entries
  distinct : (entries.map Prod.fst).Nodup
  found :
    ∀ entry ∈ entries,
      repository.get? entry.1 = some entry.2
  absent :
    ∀ name, name ∉ entries.map Prod.fst →
      repository.get? name = none

/- Distinct names are all that it takes. -/
theorem holds_of_nodup
    {entries : List (String × Rule)}
    (hDistinct : (entries.map Prod.fst).Nodup) :
    Holds ⟨entries⟩ entries where
  entries_eq := rfl
  distinct := hDistinct
  found := fun _ hEntry =>
    (lookup_eq_some_iff_mem hDistinct).mpr hEntry
  absent := fun _ hAbsent => lookup_eq_none_of_not_mem hAbsent

variable {repository : Repository}
variable {entries : List (String × Rule)}

theorem Holds.names_eq
    (hHolds : repository.Holds entries) :
    repository.names = entries.map Prod.fst := by
  rw [names, hHolds.entries_eq]

/-
  Repositories are equal if one has as many entries as the
  other, and finds its own rules there.
-/
theorem same_iff
    (x y : Repository) :
    x.same y = true ↔
      x.entries.length = y.entries.length ∧
        ∀ entry ∈ x.entries, y.get? entry.1 = some entry.2 := by
  rw [same, Bool.and_eq_true, beq_iff_eq, List.all_eq_true]
  refine and_congr_right fun _ => forall₂_congr fun entry _ => ?_
  rcases entry with ⟨name, rule⟩
  dsimp only
  cases y.get? name with
  | none => exact iff_of_false nofun nofun
  | some other =>
      rw [rule.same_iff other, Option.some.injEq, eq_comm]

/- So equality is equality up to the order of entries. -/
theorem same_iff_perm
    {x y : List (String × Rule)}
    (hX : (x.map Prod.fst).Nodup)
    (hY : (y.map Prod.fst).Nodup) :
    same ⟨x⟩ ⟨y⟩ = true ↔ x.Perm y := by
  have hFound :
      ∀ entry : String × Rule,
        get? ⟨y⟩ entry.1 = some entry.2 ↔ entry ∈ y :=
    fun entry => lookup_eq_some_iff_mem hY
  simp only [same_iff, hFound]
  constructor
  · rintro ⟨hLength, hSubset⟩
    have hSub : x.Subperm y := hX.of_map.subperm hSubset
    exact hSub.perm_of_length_le (Nat.le_of_eq hLength.symm)
  · intro hPerm
    exact ⟨hPerm.length_eq, fun _ hEntry => hPerm.subset hEntry⟩

------------------------------------------------------------
-- Insertions
------------------------------------------------------------

/- The repository after insertions, whether they fail or not. -/
def insertEach
    (repository : Repository) :
    List (String × Rule) → Repository :=
  List.foldl
    (fun repository (name, rule) =>
      (repository.tryInsert name rule).2)
    repository

/-
  What a repository holds stays there in an insertion, after
  which the name is taken.
-/
theorem Holds.tryInsert
    (hHolds : repository.Holds entries)
    (name : String)
    (rule : Rule) :
    ∃ more,
      (repository.tryInsert name rule).2.Holds
          (entries ++ more) ∧
        ∀ other,
          other ∈ (entries ++ more).map Prod.fst ↔
            other ∈ entries.map Prod.fst ∨ other = name := by
  rw [tryInsert_eq, hHolds.names_eq]
  by_cases hTaken : name ∈ entries.map Prod.fst
  · rw [if_pos hTaken]
    refine ⟨[], by rwa [List.append_nil], fun other => ?_⟩
    rw [List.append_nil, or_iff_left_of_imp]
    rintro rfl
    exact hTaken
  · rw [if_neg hTaken, hHolds.entries_eq]
    have hDistinct :=
      @nodup_append_singleton _ (name, rule) hHolds.distinct
        hTaken
    refine
      ⟨[(name, rule)], holds_of_nodup hDistinct, fun other => ?_⟩
    rw [List.map_append, List.mem_append, List.map_singleton,
      List.mem_singleton]

/- So it does in any run of insertions. -/
theorem Holds.insertEach
    (hHolds : repository.Holds entries)
    (inserts : List (String × Rule)) :
    ∃ more,
      (repository.insertEach inserts).Holds (entries ++ more) ∧
        ∀ name,
          name ∈ (entries ++ more).map Prod.fst ↔
            name ∈ entries.map Prod.fst ∨
              name ∈ inserts.map Prod.fst := by
  -- Each step may add an entry, so the entries are general.
  induction inserts generalizing repository entries with
  | nil =>
      refine ⟨[], ?_, fun name => ?_⟩
      · rw [List.append_nil]
        exact hHolds
      · simp
  | cons entry inserts ih =>
      rcases hHolds.tryInsert entry.1 entry.2 with
        ⟨first, hNext, hFirst⟩
      rcases ih hNext with ⟨more, hLast, hMore⟩
      refine ⟨first ++ more, ?_, fun name => ?_⟩
      · rw [← List.append_assoc]
        exact hLast
      · rw [← List.append_assoc, hMore, hFirst, List.map_cons,
          List.mem_cons, or_assoc]

/-
  Entries make up a repository just if their names are distinct.
  Otherwise the error has the first name that occurred before.
  The repository holds the entries, and it is equal to what
  others make up just if these are the same in some order.
  After any run of insertions it holds what it held, and what
  was added behind: an insertion of a name that is taken, by an
  entry or by an insertion before, fails and changes nothing,
  and one of a new name adds its entry at the end.
-/
theorem ofEntries_holds
    (entries : List (String × Rule)) :
    ((ofEntries entries).isOk ↔
        (entries.map Prod.fst).Nodup) ∧
      match ofEntries entries with
      | .error error =>
          ∃ name, IsRepeat entries name ∧
            error = .repositoryCollision name
      | .ok repository =>
          repository.Holds entries ∧
            (∀ others,
              others.Perm entries ↔
                ∃ merged, ofEntries others = .ok merged ∧
                  repository.same merged = true) ∧
            ∀ inserts,
              let reached := repository.insertEach inserts
              ∃ more, reached.Holds (entries ++ more) ∧
                (∀ name,
                  name ∈ reached.names ↔
                    name ∈ entries.map Prod.fst ∨
                      name ∈ inserts.map Prod.fst) ∧
                ∀ name rule,
                  reached.tryInsert name rule =
                    if name ∈ reached.names then
                      (.error (.repositoryCollision name),
                        reached)
                    else
                      (.ok (),
                        ⟨reached.entries ++
                          [(name, rule)]⟩) := by
  by_cases hDistinct : (entries.map Prod.fst).Nodup
  · rw [ofEntries_of_nodup hDistinct]
    refine
      ⟨iff_of_true rfl hDistinct, holds_of_nodup hDistinct, ?_,
        ?_⟩
    · intro others
      constructor
      · intro hPerm
        have hOthers : (others.map Prod.fst).Nodup :=
          (hPerm.map Prod.fst).nodup_iff.mpr hDistinct
        exact
          ⟨⟨others⟩, ofEntries_of_nodup hOthers,
            (same_iff_perm hDistinct hOthers).mpr hPerm.symm⟩
      · rintro ⟨merged, hMerged, hSame⟩
        have hOthers : (others.map Prod.fst).Nodup := by
          refine Decidable.byContradiction fun hRepeated => ?_
          rcases exists_isRepeat hRepeated with ⟨name, hRepeat⟩
          rw [ofEntries_of_isRepeat hRepeat] at hMerged
          cases hMerged
        rw [ofEntries_of_nodup hOthers] at hMerged
        cases hMerged
        exact ((same_iff_perm hDistinct hOthers).mp hSame).symm
    · intro inserts reached
      rcases (holds_of_nodup hDistinct).insertEach inserts with
        ⟨more, hReached, hNames⟩
      have hTaken :
          ∀ name,
            name ∈ reached.names ↔
              name ∈ entries.map Prod.fst ∨
                name ∈ inserts.map Prod.fst := by
        intro name
        rw [hReached.names_eq, hNames]
      exact ⟨more, hReached, hTaken, reached.tryInsert_eq⟩
  · rcases exists_isRepeat hDistinct with ⟨name, hRepeat⟩
    rw [ofEntries_of_isRepeat hRepeat]
    exact ⟨iff_of_false nofun hDistinct, name, hRepeat, rfl⟩

end Repository

end TextMate
