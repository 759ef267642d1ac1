import BenchSuite.Proofs.Manifest.Equations
import BenchSuite.Proofs.Manifest.Representation

/-!
# One more definition

A manifest with one more definition, if it still has a suite, has the suite of before with one more
group.  The definitions that were there cannot refer to the new group: they were known to mean
something without it, and a name that meant a benchmark goes on to mean this benchmark.  So the
groups of before, together with the new one, solve the equations that they solved alone.
-/

namespace BenchSuite

namespace Manifest

/-- The manifest with the definition of one more group. -/
def define (manifest : Manifest) (group : String) (tokens : List String) : Manifest :=
  { manifest with definitions := manifest.definitions.insert group tokens }

variable {manifest : Manifest} {group : String} {tokens : List String}
  {registry registry' : Registry} {definitions extended : Definitions} {suite suite' : Suite}

theorem define_defines_iff {name : String} :
    (manifest.define group tokens).Defines name ↔ name = group ∨ manifest.Defines name :=
  NameMap.mem_names_insert

section Definitions

variable (reads : manifest.ReadsFrom manifest.definitions.entries definitions)
  (reads' : (manifest.define group tokens).ReadsFrom
    (manifest.define group tokens).definitions.entries extended)

include reads reads'

theorem mem_names_extended_iff {name : String} :
    name ∈ extended.names ↔ name = group ∨ name ∈ definitions.names := by
  rw [reads'.mem_names_iff, reads.mem_names_iff, define_defines_iff]

theorem get?_extended_of_ne {name : String} (differs : name ≠ group) :
    extended.get? name = definitions.get? name := by
  ext selections
  simp only [reads.get?_iff, reads'.get?_iff, NameMap.mem_entries_iff, define,
    NameMap.get?_insert_of_ne _ _ differs]

/-- A further definition, but for that of the default group, does not touch the groups that need no
definition. -/
theorem implicitGroups_extended (other : group ≠ defaultGroup) (benchmarks : List String)
    (tagGroups : Groups) :
    implicitGroups benchmarks extended tagGroups =
      implicitGroups benchmarks definitions tagGroups := by
  have declared : extended.contains defaultGroup = definitions.contains defaultGroup := by
    rw [Bool.eq_iff_iff, NameMap.contains_iff_mem_names, NameMap.contains_iff_mem_names,
      mem_names_extended_iff reads reads', or_iff_right other.symm]
  simp only [implicitGroups, declared]

theorem solves_of_extended {benchmarks : List String} {groups : Groups}
    (undefined : group ∉ definitions.names) (solves : extended.Solves benchmarks groups) :
    definitions.Solves benchmarks groups := by
  intro name selections found
  have differs : name ≠ group := by
    rintro rfl
    exact undefined (NameMap.mem_names_iff.mpr ⟨selections, found⟩)
  exact solves name selections ((get?_extended_of_ne reads reads' differs).trans found)

end Definitions

/-- A solution stays one if a group is added that has no definition. -/
theorem solves_insert {benchmarks : List String} {groups : Groups} {members : NameSet}
    (solves : definitions.Solves benchmarks groups) (fresh : group ∉ groups.names) :
    definitions.Solves benchmarks (groups.insert group members) := by
  have within := Groups.within_insert members fresh
  intro name selections found
  obtain ⟨members', resolved, means⟩ := solves name selections found
  exact ⟨members', within name members' resolved, means.within within⟩

theorem not_mem_groups_of_define (undefined : ¬ manifest.Defines group)
    (other : group ≠ defaultGroup) (becomes : manifest.Becomes registry definitions suite)
    (becomes' : (manifest.define group tokens).Becomes registry' extended suite') :
    group ∉ suite.groups.names := by
  have defined : (manifest.define group tokens).Defines group := define_defines_iff.mpr (.inl rfl)
  obtain ⟨-, unreserved, untagged⟩ :=
    becomes'.reads.allowed_of_mem_names (becomes'.reads.mem_names_iff.mpr defined)
  intro listed
  rcases (becomes.mem_groups_iff group).mp listed with tagged | defines | reserved | default
  · exact untagged tagged
  · exact undefined defines
  · exact unreserved reserved
  · exact other default

/-- The groups of before and the new one are the groups of the suite with the further definition. -/
theorem groups_of_define (undefined : ¬ manifest.Defines group) (other : group ≠ defaultGroup)
    (becomes : manifest.Becomes registry definitions suite)
    (becomes' : (manifest.define group tokens).Becomes registry' extended suite') :
    ∃ members, suite'.groups = suite.groups.insert group members := by
  have fresh := not_mem_groups_of_define undefined other becomes becomes'
  have absent : group ∉ definitions.names := becomes.reads.mem_names_iff.not.mpr undefined
  have listed : group ∈ extended.names :=
    (mem_names_extended_iff becomes.reads becomes'.reads).mpr (.inl rfl)
  obtain ⟨members, resolved⟩ := NameMap.mem_names_iff.mp (becomes'.resolved group listed)
  obtain rfl : registry = registry' := becomes.describes.unique becomes'.describes
  refine ⟨members, ?_⟩
  -- Both the groups of before, with the new one added, and those of the further manifest solve the
  -- equations of before; the new group is not among the unknowns.
  have solves := becomes.settled.solves becomes.resolved
  have solves' := solves_of_extended becomes.reads becomes'.reads absent
    (becomes'.settled.solves becomes'.resolved)
  refine solves'.unique (solves_insert solves fresh) (fun name unknown => ?_) fun name defined =>
    becomes.settled.grounded name (becomes.resolved name defined)
  by_cases same : name = group
  · rw [same, resolved, NameMap.get?_insert_self]
  · have unknown' : name ∉ extended.names := fun listed =>
      ((mem_names_extended_iff becomes.reads becomes'.reads).mp listed).elim same unknown
    rw [NameMap.get?_insert_of_ne _ _ same, becomes'.settled.get?_of_undefined unknown',
      becomes.settled.get?_of_undefined unknown,
      implicitGroups_extended becomes.reads becomes'.reads other]
    rfl

/-- If a manifest has a suite, and still has one with the definition of one more group, which is not
the default group, then the second suite is the first one with that group added to it.  Selections
that all meant something before select the same benchmarks afterwards, also where the new group has
the name of a benchmark. -/
theorem suite_of_define (undefined : ¬ manifest.Defines group) (other : group ≠ defaultGroup)
    (loads : manifest.suite = .ok suite)
    (loads' : (manifest.define group tokens).suite = .ok suite') :
    group ∉ suite.groups.names ∧
    (∃ members, suite' = { suite with groups := suite.groups.insert group members }) ∧
    ∀ selections resolution, suite.catalog.resolveGuarded none selections = .ok resolution →
      resolution.unmatched = [] →
        suite'.catalog.resolveGuarded none selections = .ok resolution := by
  obtain ⟨registry, definitions, becomes⟩ := (ends_suite manifest).of_ok loads
  obtain ⟨registry', extended, becomes'⟩ :=
    (ends_suite (manifest.define group tokens)).of_ok loads'
  have fresh := not_mem_groups_of_define undefined other becomes becomes'
  obtain ⟨members, groups⟩ := groups_of_define undefined other becomes becomes'
  have benchmarks : suite'.benchmarks = suite.benchmarks :=
    becomes'.benchmarks.trans becomes.benchmarks.symm
  have index : suite'.index = suite.index := by
    rw [becomes'.index, becomes.index, becomes.describes.unique becomes'.describes]
  refine ⟨fresh, ⟨members, ?_⟩, fun selections resolution resolves matched => ?_⟩
  · cases suite'
    cases benchmarks
    cases index
    cases groups
    rfl
  · cases resolves
    have known : ∀ selection ∈ selections, suite.catalog.Knows selection.pattern := by
      rw [Catalog.resolve_eq] at matched
      simpa using matched
    have resolved : suite.catalog.resolve selections = suite'.catalog.resolve selections := by
      refine Catalog.resolve_congr ?_ fun selection listed => ?_
      · rw [Suite.catalog, Suite.catalog, benchmarks]
      · simp only [Suite.catalog, benchmarks, groups]
        exact Catalog.matched?_eq_of_within (Groups.within_insert members fresh)
          (known selection listed)
    rw [resolved]
    rfl

/-- The new group has the name of a benchmark that other definitions exclude by its name. -/
theorem suite_of_nightly_define :
    ∃ suite suite', nightly.suite = .ok suite ∧
      (nightly.define "chaos" ["<math>", "-chaos"]).suite = .ok suite' ∧
      (∃ members, suite' = { suite with groups := suite.groups.insert "chaos" members }) ∧
      ∀ selections, (suite.catalog.resolve selections).unmatched = [] →
        suite'.catalog.resolve selections = suite.catalog.resolve selections := by
  obtain ⟨suite, loads⟩ := exists_suite_nightly
  obtain ⟨suite', loads'⟩ := exists_eq_ok
    (show (nightly.define "chaos" ["<math>", "-chaos"]).suite.isOk = true by decide +kernel)
  have undefined : ¬ nightly.Defines "chaos" := by
    rw [Defines]
    decide +kernel
  have other : "chaos" ≠ defaultGroup := by decide +kernel
  obtain ⟨-, added, same⟩ := suite_of_define undefined other loads loads'
  refine ⟨suite, suite', loads, loads', added, fun selections matched => ?_⟩
  exact Except.ok.inj (same selections _ rfl matched)

end Manifest

end BenchSuite
