import BenchSuite.Proofs.Selection.Covering

/-!
# What a definition means

The definition of a group is a list of selections and means the benchmarks that they select.  The
meaning depends on the groups that the selections name and on no others, so it does not change when
further groups become known.
-/

namespace BenchSuite

/-- Every group of the first has the same members among the second. -/
def Groups.Within (first second : Groups) : Prop :=
  ∀ group members, first.get? group = some members → second.get? group = some members

theorem Groups.Within.refl (groups : Groups) : groups.Within groups :=
  fun _ _ found => found

theorem Groups.Within.trans {first second third : Groups} (within : first.Within second)
    (within' : second.Within third) : first.Within third :=
  fun group members found => within' group members (within group members found)

theorem Groups.Within.mem_names {first second : Groups} (within : first.Within second)
    {group : String} (listed : group ∈ first.names) : group ∈ second.names := by
  obtain ⟨members, found⟩ := NameMap.mem_names_iff.mp listed
  exact NameMap.mem_names_iff.mpr ⟨members, within group members found⟩

theorem Groups.within_insert {groups : Groups} {group : String} (members : NameSet)
    (fresh : group ∉ groups.names) : groups.Within (groups.insert group members) := by
  intro other others found
  rw [NameMap.get?_insert]
  split
  · rename_i same
    exact (fresh (NameMap.mem_names_iff.mpr ⟨others, same ▸ found⟩)).elim
  · exact found

namespace Catalog

/-- What a definition means: no benchmarks if it is empty, and otherwise the benchmarks that its
selections select, all of which must mean something. -/
def Means (catalog : Catalog) (selections : List Selection) (members : NameSet) : Prop :=
  (selections = [] ∧ members = ∅) ∨
    (selections ≠ [] ∧ ∃ resolution, catalog.resolveGuarded none selections = .ok resolution ∧
      resolution.unmatched = [] ∧ ∀ benchmark, benchmark ∈ members ↔ benchmark ∈ resolution.benchmarks)

theorem Means.eq {catalog : Catalog} {selections : List Selection} {first second : NameSet}
    (means : catalog.Means selections first) (means' : catalog.Means selections second) :
    first = second := by
  rcases means with ⟨empty, rfl⟩ | ⟨nonempty, resolution, resolves, -, members⟩ <;>
    rcases means' with ⟨empty', rfl⟩ | ⟨nonempty', resolution', resolves', -, members'⟩
  · rfl
  · exact (nonempty' empty).elim
  · exact (nonempty empty').elim
  · cases resolves.symm.trans resolves'
    exact NameSet.eq_of_mem_iff fun benchmark => (members benchmark).trans (members' benchmark).symm

theorem Means.knows {catalog : Catalog} {selections : List Selection} {members : NameSet}
    (means : catalog.Means selections members) {selection : Selection}
    (listed : selection ∈ selections) : catalog.Knows selection.pattern := by
  rcases means with ⟨rfl, -⟩ | ⟨-, resolution, resolves, matched, -⟩
  · cases listed
  · cases resolves
    rw [resolve_eq] at matched
    simpa using List.filter_eq_nil_iff.mp matched selection listed

theorem Means.mem_benchmarks {catalog : Catalog} {selections : List Selection} {members : NameSet}
    (means : catalog.Means selections members) {benchmark : String}
    (member : benchmark ∈ members) : benchmark ∈ catalog.benchmarks := by
  rcases means with ⟨-, rfl⟩ | ⟨-, resolution, resolves, -, members⟩
  · exact (NameSet.not_mem_emptyCollection benchmark member).elim
  · cases resolves
    have selected := (members benchmark).mp member
    rw [resolve_eq] at selected
    exact List.mem_of_mem_filter selected

/-- The meaning of a definition depends on the meanings of its patterns only. -/
theorem Means.congr {first second : Catalog} {selections : List Selection} {members : NameSet}
    (means : first.Means selections members) (benchmarks : first.benchmarks = second.benchmarks)
    (same : ∀ selection ∈ selections,
      first.matched? selection.pattern = second.matched? selection.pattern) :
    second.Means selections members := by
  rcases means with empty | ⟨nonempty, resolution, resolves, rest⟩
  · exact .inl empty
  · refine .inr ⟨nonempty, resolution, ?_, rest⟩
    have resolved := resolve_congr benchmarks same
    simpa [resolveGuarded, resolved] using resolves

/-- The meaning of a definition does not depend on the order of the benchmarks. -/
theorem Means.perm {benchmarks reordered : List String} {groups : Groups}
    {selections : List Selection} {members : NameSet}
    (means : Catalog.Means ⟨benchmarks, groups⟩ selections members)
    (permuted : benchmarks.Perm reordered) :
    Catalog.Means ⟨reordered, groups⟩ selections members := by
  rcases means with empty | ⟨nonempty, resolution, resolves, matched, members⟩
  · exact .inl empty
  · cases resolves
    obtain ⟨selected, unmatched⟩ := resolve_perm groups permuted selections
    refine .inr ⟨nonempty, _, rfl, unmatched ▸ matched, fun benchmark => ?_⟩
    exact (members benchmark).trans selected.mem_iff

theorem matched?_eq_of_within {benchmarks : List String} {first second : Groups}
    (within : first.Within second) {pattern : Pattern}
    (known : Catalog.Knows ⟨benchmarks, first⟩ pattern) :
    matched? ⟨benchmarks, first⟩ pattern = matched? ⟨benchmarks, second⟩ pattern := by
  rw [← matched?_isSome_iff_knows] at known
  obtain ⟨members, matched⟩ := Option.isSome_iff_exists.mp known
  cases pattern with
  | name name =>
      by_cases registered : name ∈ benchmarks
      · simp [matched?, hasBenchmark, registered]
      · simp only [matched?, hasBenchmark, List.contains_eq_mem, registered, decide_false,
          Bool.false_eq_true, ↓reduceIte] at matched ⊢
        rw [matched, within name members matched]
  | tag group =>
      exact matched.trans (within group members matched).symm

theorem Means.within {benchmarks : List String} {first second : Groups}
    {selections : List Selection} {members : NameSet}
    (means : Catalog.Means ⟨benchmarks, first⟩ selections members)
    (within : first.Within second) : Catalog.Means ⟨benchmarks, second⟩ selections members :=
  means.congr rfl fun _ listed => matched?_eq_of_within within (means.knows listed)

end Catalog

end BenchSuite
