import BenchSuite.Proofs.Manifest.Checking

/-!
# What a suite holds

The parts of a suite say the same thing in different ways: the list of benchmarks, the index of
their positions, and the members of the groups.  They agree for every suite that comes from a
manifest, and they say what the manifest declares.
-/

namespace BenchSuite

/-- The list, the index and the groups of the suite agree, and hold what the manifest declares. -/
structure Suite.Represents (suite : Suite) (manifest : Manifest) : Prop where
  benchmarks : suite.benchmarks = manifest.benchmarks
  names_nodup : suite.catalog.benchmarks.Nodup
  names_allowed : ∀ name ∈ suite.catalog.benchmarks, NameRule.numericStart.Allows name
  hasBenchmark_iff : ∀ name, suite.hasBenchmark name = true ↔ name ∈ suite.catalog.benchmarks
  catalog_hasBenchmark : ∀ name, suite.catalog.hasBenchmark name = suite.hasBenchmark name
  get?_iff : ∀ name benchmark, suite.get? name = some benchmark ↔
    benchmark ∈ manifest.benchmarks ∧ benchmark.name = name
  mem_groups_iff : ∀ group, group ∈ suite.groups.names ↔
    manifest.HasTag group ∨ manifest.Defines group ∨ group = allGroup ∨ group = defaultGroup
  groups_allowed : ∀ group ∈ suite.groups.names, NameRule.strict.Allows group
  groups_ascending : suite.groups.names.Pairwise (· < ·)
  members_registered : ∀ group member, suite.groups.HasMember group member →
    member ∈ suite.catalog.benchmarks
  all_members : ∃ members, suite.groups.get? allGroup = some members ∧
    ∀ name, name ∈ members ↔ name ∈ suite.catalog.benchmarks
  tag_members : ∀ tag, manifest.HasTag tag → ∃ members, suite.groups.get? tag = some members ∧
    ∀ name, name ∈ members ↔
      ∃ benchmark ∈ manifest.benchmarks, benchmark.name = name ∧ tag ∈ benchmark.tags
  default_members : ¬ manifest.HasTag defaultGroup → ¬ manifest.Defines defaultGroup →
    ∃ members, suite.groups.get? defaultGroup = some members ∧
      ∀ name, name ∈ members ↔ name ∈ suite.catalog.benchmarks

namespace Manifest

variable {manifest : Manifest} {registry : Registry} {definitions : Definitions} {suite : Suite}
  {benchmarks : List String} {tagGroups : Groups}

theorem get?_implicitGroups_all :
    (implicitGroups benchmarks definitions tagGroups).get? allGroup =
      some (NameSet.ofList benchmarks) :=
  NameMap.get?_insert_self _ _ _

theorem get?_implicitGroups_default (untagged : defaultGroup ∉ tagGroups.names)
    (undefined : defaultGroup ∉ definitions.names) :
    (implicitGroups benchmarks definitions tagGroups).get? defaultGroup =
      some (NameSet.ofList benchmarks) := by
  rw [← NameMap.contains_iff_mem_names] at untagged undefined
  rw [implicitGroups, NameMap.get?_insert_of_ne _ _ (by decide)]
  simp [untagged, undefined]

theorem get?_implicitGroups_of_ne_all {tag : String} (tagged : tag ∈ tagGroups.names)
    (unreserved : tag ≠ allGroup) :
    (implicitGroups benchmarks definitions tagGroups).get? tag = tagGroups.get? tag := by
  rw [implicitGroups, NameMap.get?_insert_of_ne _ _ unreserved]
  split
  · rfl
  · rename_i undeclared
    apply NameMap.get?_insert_of_ne
    rintro rfl
    simp [NameMap.contains_iff_mem_names, tagged] at undeclared

namespace Becomes

variable (becomes : manifest.Becomes registry definitions suite)

include becomes

theorem catalog_benchmarks : suite.catalog.benchmarks = manifest.names := by
  rw [Suite.catalog, becomes.benchmarks, names]

theorem hasBenchmark_iff (name : String) :
    suite.hasBenchmark name = true ↔ name ∈ suite.catalog.benchmarks := by
  rw [Suite.hasBenchmark, becomes.index, becomes.catalog_benchmarks]
  exact becomes.describes.contains_iff name

theorem get?_iff (name : String) (benchmark : Benchmark) :
    suite.get? name = some benchmark ↔
      benchmark ∈ manifest.benchmarks ∧ benchmark.name = name := by
  have located (position : Nat) : suite.index.get? name = some position ↔
      manifest.names[position]? = some name := by
    rw [becomes.index]
    exact becomes.describes.index name position
  simp only [Suite.get?, Option.bind_eq_bind, Option.bind_eq_some_iff, located,
    becomes.benchmarks]
  constructor
  · rintro ⟨position, named, found⟩
    refine ⟨List.mem_of_getElem? found, ?_⟩
    simpa [names, found] using named
  · rintro ⟨registered, rfl⟩
    obtain ⟨position, found⟩ := List.mem_iff_getElem?.mp registered
    exact ⟨position, by simp [names, found], found⟩

theorem mem_groups_iff (group : String) :
    group ∈ suite.groups.names ↔ manifest.HasGroup group := by
  rw [← becomes.reads.hasGroup_iff becomes.describes]
  constructor
  · exact becomes.settled.only group
  · rintro (implicit | defined)
    · exact becomes.settled.keeps.mem_names implicit
    · exact becomes.resolved group defined

theorem get?_tag {tag : String} (tagged : manifest.HasTag tag) :
    suite.groups.get? tag = registry.groups.get? tag := by
  obtain ⟨benchmark, registered, carried⟩ := tagged
  have listed := (becomes.describes.names tag).mpr ⟨benchmark, registered, carried⟩
  obtain ⟨-, unreserved⟩ := becomes.describes.tags_allowed benchmark registered tag carried
  obtain ⟨members, found⟩ := NameMap.mem_names_iff.mp listed
  rw [found]
  apply becomes.settled.keeps
  rw [get?_implicitGroups_of_ne_all listed unreserved, found]

theorem get?_all : suite.groups.get? allGroup = some (NameSet.ofList manifest.names) :=
  becomes.settled.keeps _ _ get?_implicitGroups_all

theorem get?_default (untagged : ¬ manifest.HasTag defaultGroup)
    (undefined : ¬ manifest.Defines defaultGroup) :
    suite.groups.get? defaultGroup = some (NameSet.ofList manifest.names) := by
  apply becomes.settled.keeps
  apply get?_implicitGroups_default
  · exact (becomes.describes.names defaultGroup).not.mpr untagged
  · exact becomes.reads.mem_names_iff.not.mpr undefined

theorem groups_allowed (group : String) (listed : group ∈ suite.groups.names) :
    NameRule.strict.Allows group := by
  rcases (becomes.mem_groups_iff group).mp listed with
    ⟨benchmark, registered, carried⟩ | defined | rfl | rfl
  · exact (becomes.describes.tags_allowed benchmark registered group carried).1
  · exact (becomes.reads.allowed_of_mem_names (becomes.reads.mem_names_iff.mpr defined)).1
  · decide
  · decide

theorem hasMember_tag_iff {tag : String} (tagged : manifest.HasTag tag) (name : String) :
    suite.groups.HasMember tag name ↔
      ∃ benchmark ∈ manifest.benchmarks, benchmark.name = name ∧ tag ∈ benchmark.tags := by
  rw [← becomes.describes.members, Groups.HasMember, Groups.HasMember, becomes.get?_tag tagged]

theorem members_registered (group member : String)
    (belongs : suite.groups.HasMember group member) : member ∈ manifest.names := by
  have of_tag (tagged : manifest.HasTag group) : member ∈ manifest.names := by
    obtain ⟨benchmark, registered, rfl, -⟩ := (becomes.hasMember_tag_iff tagged member).mp belongs
    exact List.mem_map_of_mem registered
  obtain ⟨members, found, member'⟩ := belongs
  have of_defined (defined : manifest.Defines group) : member ∈ manifest.names := by
    obtain ⟨selections, definition⟩ :=
      NameMap.mem_names_iff.mp (becomes.reads.mem_names_iff.mpr defined)
    have means := becomes.settled.solved group selections members definition found
    exact means.mem_benchmarks member'
  have of_all (all : suite.groups.get? group = some (NameSet.ofList manifest.names)) :
      member ∈ manifest.names := by
    cases found.symm.trans all
    exact NameSet.mem_ofList.mp member'
  rcases (becomes.mem_groups_iff group).mp (NameMap.mem_names_iff.mpr ⟨members, found⟩) with
    tagged | defined | rfl | rfl
  · exact of_tag tagged
  · exact of_defined defined
  · exact of_all becomes.get?_all
  · by_cases tagged : manifest.HasTag defaultGroup
    · exact of_tag tagged
    · by_cases defined : manifest.Defines defaultGroup
      · exact of_defined defined
      · exact of_all (becomes.get?_default tagged defined)

end Becomes

/-- The list, the index and the groups of a suite agree with each other and with the manifest.  The
names are distinct, allowed and in the order of the manifest, the index finds exactly the declared
benchmarks, and the groups are the tags, the defined groups, `all` and `default`, in ascending
order.  Every member is a registered benchmark; tags keep the benchmarks that carry them, and `all`
and an undeclared `default` have every benchmark. -/
theorem suite_represents (loads : manifest.suite = .ok suite) : suite.Represents manifest := by
  obtain ⟨registry, definitions, becomes⟩ := (ends_suite manifest).of_ok loads
  have names := becomes.catalog_benchmarks
  refine
    { benchmarks := becomes.benchmarks
      names_nodup := names ▸ becomes.describes.distinct
      names_allowed := ?_
      hasBenchmark_iff := becomes.hasBenchmark_iff
      catalog_hasBenchmark := ?_
      get?_iff := becomes.get?_iff
      mem_groups_iff := becomes.mem_groups_iff
      groups_allowed := becomes.groups_allowed
      groups_ascending := suite.groups.ascending
      members_registered := names ▸ becomes.members_registered
      all_members := ⟨_, becomes.get?_all, by simp [names]⟩
      tag_members := ?_
      default_members := ?_ }
  · intro name listed
    rw [names] at listed
    obtain ⟨benchmark, registered, rfl⟩ := List.mem_map.mp listed
    exact becomes.describes.names_allowed benchmark registered
  · intro name
    rw [Bool.eq_iff_iff, becomes.hasBenchmark_iff, Catalog.hasBenchmark, List.contains_iff_mem]
  · intro tag tagged
    obtain ⟨members, found⟩ :=
      NameMap.mem_names_iff.mp ((becomes.mem_groups_iff tag).mpr (.inl tagged))
    refine ⟨members, found, fun name => ?_⟩
    rw [← becomes.hasMember_tag_iff tagged]
    simp [Groups.HasMember, found]
  · intro untagged undefined
    exact ⟨_, becomes.get?_default untagged undefined, by simp [names]⟩

theorem nightly_represents :
    ∃ suite, nightly.suite = .ok suite ∧ suite.Represents nightly := by
  obtain ⟨suite, loads⟩ := exists_suite_nightly
  exact ⟨suite, loads, suite_represents loads⟩

end Manifest

end BenchSuite
