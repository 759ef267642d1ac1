import BenchSuite.Proofs.Manifest.Equations
import Mathlib.Data.List.Forall2

/-!
# The order of registration

Benchmarks may be registered in any order, and so may the tags of each of them.  Soundness speaks of
which names there are and who carries which tag, so it does not depend on these orders; and the
groups of a suite, being the only solution of equations that do not depend on them either, are the
same.  What remains of the order is the order in which selected benchmarks are listed.
-/

namespace BenchSuite

/-- The same benchmark but for the order and the repetition of its tags. -/
structure Benchmark.Similar (first second : Benchmark) : Prop where
  name : first.name = second.name
  tags : ∀ tag, tag ∈ first.tags ↔ tag ∈ second.tags

namespace Manifest

/-- The same definitions and the same benchmarks but for their order, each of them with its tags in
any order. -/
structure Reordered (manifest reordered : Manifest) : Prop where
  definitions : manifest.definitions = reordered.definitions
  benchmarks : ∃ similar, List.Forall₂ Benchmark.Similar manifest.benchmarks similar ∧
    similar.Perm reordered.benchmarks

def Carries (manifest : Manifest) (name tag : String) : Prop :=
  ∃ benchmark ∈ manifest.benchmarks, benchmark.name = name ∧ tag ∈ benchmark.tags

/-- What two manifests have in common if one is the other in another order. -/
structure Resembles (manifest other : Manifest) : Prop where
  definitions : manifest.definitions = other.definitions
  names : manifest.names.Perm other.names
  carries : ∀ name tag, manifest.Carries name tag ↔ other.Carries name tag

variable {manifest other : Manifest} {registry registry' : Registry}
  {definitions definitions' : Definitions} {suite suite' : Suite}

theorem resembles_of_similar {similar : List Benchmark}
    (alike : List.Forall₂ Benchmark.Similar manifest.benchmarks similar) :
    manifest.Resembles ⟨similar, manifest.definitions⟩ where
  definitions := rfl
  names := by
    have same : manifest.names = similar.map Benchmark.name := by
      rw [names, ← List.forall₂_eq_eq_eq, List.forall₂_map_left_iff, List.forall₂_map_right_iff]
      exact alike.imp fun _ _ similar => similar.name
    exact .of_eq same
  carries := by
    intro name tag
    simp only [Carries]
    generalize manifest.benchmarks = benchmarks at alike
    induction alike with
    | nil => simp
    | cons head _ ih => simp only [List.exists_mem_cons_iff, head.name, head.tags, ih]

theorem resembles_of_perm {reordered : List Benchmark}
    (permuted : manifest.benchmarks.Perm reordered) :
    manifest.Resembles ⟨reordered, manifest.definitions⟩ where
  definitions := rfl
  names := permuted.map Benchmark.name
  carries name tag := by simp only [Carries, permuted.mem_iff]

theorem Resembles.symm (resembles : manifest.Resembles other) : other.Resembles manifest where
  definitions := resembles.definitions.symm
  names := resembles.names.symm
  carries name tag := (resembles.carries name tag).symm

theorem Resembles.trans {third : Manifest} (resembles : manifest.Resembles other)
    (resembles' : other.Resembles third) : manifest.Resembles third where
  definitions := resembles.definitions.trans resembles'.definitions
  names := resembles.names.trans resembles'.names
  carries name tag := (resembles.carries name tag).trans (resembles'.carries name tag)

theorem Reordered.resembles (reordered : manifest.Reordered other) : manifest.Resembles other := by
  obtain ⟨definitions, similar, alike, permuted⟩ := reordered
  cases other
  cases definitions
  exact (resembles_of_similar alike).trans (resembles_of_perm permuted)

namespace Resembles

variable (resembles : manifest.Resembles other)

include resembles

theorem mem_names_iff (name : String) : name ∈ manifest.names ↔ name ∈ other.names :=
  resembles.names.mem_iff

theorem hasTag_iff (tag : String) : manifest.HasTag tag ↔ other.HasTag tag := by
  have carried (manifest : Manifest) : manifest.HasTag tag ↔ ∃ name, manifest.Carries name tag := by
    simp [HasTag, Carries]
  rw [carried, carried]
  exact exists_congr fun name => resembles.carries name tag

theorem defines_iff (group : String) : manifest.Defines group ↔ other.Defines group := by
  rw [Defines, Defines, resembles.definitions]

theorem lists_iff (group : String) (selection : Selection) :
    manifest.Lists group selection ↔ other.Lists group selection := by
  rw [Lists, Lists, resembles.definitions]

theorem refers_eq : manifest.Refers = other.Refers := by
  funext group reference
  simp only [Refers, resembles.defines_iff, resembles.lists_iff, resembles.mem_names_iff]

theorem knows_iff (pattern : Pattern) : manifest.Knows pattern ↔ other.Knows pattern := by
  cases pattern <;>
    simp only [Knows, HasGroup, resembles.mem_names_iff, resembles.hasTag_iff,
      resembles.defines_iff]

theorem sound (sound : manifest.Sound) : other.Sound where
  names_allowed name listed := sound.names_allowed name ((resembles.mem_names_iff name).mpr listed)
  names_nodup := resembles.names.nodup_iff.mp sound.names_nodup
  tags_allowed tag tagged := sound.tags_allowed tag ((resembles.hasTag_iff tag).mpr tagged)
  groups_allowed group defined := by
    rw [← resembles.hasTag_iff]
    exact sound.groups_allowed group ((resembles.defines_iff group).mpr defined)
  definitions_parse := resembles.definitions ▸ sound.definitions_parse
  acyclic := resembles.refers_eq ▸ sound.acyclic
  members_known group selection listed := by
    rw [← resembles.knows_iff]
    exact sound.members_known group selection ((resembles.lists_iff group selection).mpr listed)

theorem registry_groups (describes : registry.Describes manifest.benchmarks)
    (describes' : registry'.Describes other.benchmarks) : registry.groups = registry'.groups := by
  apply Groups.eq_of_hasMember_iff
  · intro tag
    rw [describes.names, describes'.names]
    exact resembles.hasTag_iff tag
  · intro tag name
    rw [describes.members, describes'.members]
    exact resembles.carries name tag

/-- Both manifests are resolved from the same groups that need no definition. -/
theorem implicitGroups_eq (tagGroups : Groups) :
    implicitGroups manifest.names definitions tagGroups =
      implicitGroups other.names definitions tagGroups := by
  have all : NameSet.ofList manifest.names = NameSet.ofList other.names := by
    apply NameSet.eq_of_mem_iff
    intro name
    rw [NameSet.mem_ofList, NameSet.mem_ofList, resembles.mem_names_iff]
  simp only [implicitGroups, all]

theorem solves {groups : Groups} (solves : definitions.Solves other.names groups) :
    definitions.Solves manifest.names groups := by
  intro group selections found
  obtain ⟨members, resolved, means⟩ := solves group selections found
  exact ⟨members, resolved, means.perm resembles.names.symm⟩

theorem suite_groups (becomes : manifest.Becomes registry definitions suite)
    (becomes' : other.Becomes registry' definitions' suite') : suite.groups = suite'.groups := by
  obtain rfl : definitions = definitions' :=
    becomes.reads.unique (resembles.definitions ▸ becomes'.reads)
  have base := resembles.registry_groups becomes.describes becomes'.describes
  refine (becomes.settled.eq_of_solves becomes.resolved ?_ fun name undefined => ?_).symm
  · exact resembles.solves (becomes'.settled.solves becomes'.resolved)
  · rw [becomes.settled.get?_of_undefined undefined, becomes'.settled.get?_of_undefined undefined,
      resembles.implicitGroups_eq, base]

end Resembles

theorem sound_of_suite (loads : manifest.suite = .ok suite) : manifest.Sound := by
  obtain ⟨registry, definitions, becomes⟩ := (ends_suite manifest).of_ok loads
  exact becomes.sound

theorem Sound.exists_suite (sound : manifest.Sound) : ∃ suite, manifest.suite = .ok suite := by
  obtain ⟨suite, loads, -⟩ := (ends_suite manifest).exists_ok sound.not_exhibits
  exact ⟨suite, loads⟩

/-- The order in which benchmarks are registered, and that of their tags, has no part in whether a
manifest has a suite, in the groups of the suite, or in what selections select and leave unmatched.
Only the selected benchmarks are listed in the order of registration. -/
theorem suite_of_reordered (reordered : manifest.Reordered other) :
    ((∃ suite, manifest.suite = .ok suite) ↔ ∃ suite, other.suite = .ok suite) ∧
    ∀ suite suite', manifest.suite = .ok suite → other.suite = .ok suite' →
      suite.groups = suite'.groups ∧
      ∀ selections, ∃ resolution resolution',
        suite.catalog.resolveGuarded none selections = .ok resolution ∧
        suite'.catalog.resolveGuarded none selections = .ok resolution' ∧
        resolution.benchmarks.Perm resolution'.benchmarks ∧
        resolution.unmatched = resolution'.unmatched ∧
        resolution.benchmarks.Sublist manifest.names ∧
        resolution'.benchmarks.Sublist other.names := by
  have resembles := reordered.resembles
  refine ⟨⟨?_, ?_⟩, fun suite suite' loads loads' => ?_⟩
  · rintro ⟨suite, loads⟩
    exact (resembles.sound (sound_of_suite loads)).exists_suite
  · rintro ⟨suite, loads⟩
    exact (resembles.symm.sound (sound_of_suite loads)).exists_suite
  · obtain ⟨registry, definitions, becomes⟩ := (ends_suite manifest).of_ok loads
    obtain ⟨registry', definitions', becomes'⟩ := (ends_suite other).of_ok loads'
    have groups := resembles.suite_groups becomes becomes'
    refine ⟨groups, fun selections => ⟨_, _, rfl, rfl, ?_⟩⟩
    have catalog : suite.catalog = ⟨manifest.names, suite.groups⟩ := by
      rw [Suite.catalog, becomes.benchmarks, names]
    have catalog' : suite'.catalog = ⟨other.names, suite.groups⟩ := by
      rw [Suite.catalog, becomes'.benchmarks, names, groups]
    rw [catalog, catalog']
    obtain ⟨selected, unmatched⟩ := Catalog.resolve_perm suite.groups resembles.names selections
    refine ⟨selected, unmatched, ?_, ?_⟩
    · exact List.filter_sublist
    · exact List.filter_sublist

theorem suite_of_nightly_reordered :
    let reordered : Manifest :=
      { nightly with
          benchmarks := [⟨"nbody", ["math", "math"]⟩, ⟨"2to3", ["apps"]⟩,
            ⟨"core", ["apps", "apps"]⟩, ⟨"chaos", ["math"]⟩] }
    nightly.Reordered reordered ∧ ∃ suite suite', nightly.suite = .ok suite ∧
      reordered.suite = .ok suite' ∧ suite.groups = suite'.groups ∧
      (suite.catalog.resolve []).benchmarks.Perm (suite'.catalog.resolve []).benchmarks := by
  intro reordered
  have alike : nightly.Reordered reordered := by
    refine ⟨rfl, [⟨"2to3", ["apps"]⟩, ⟨"chaos", ["math"]⟩, ⟨"core", ["apps", "apps"]⟩,
      ⟨"nbody", ["math", "math"]⟩], ?_, by decide⟩
    refine .cons ⟨rfl, ?_⟩ (.cons ⟨rfl, ?_⟩ (.cons ⟨rfl, ?_⟩ (.cons ⟨rfl, ?_⟩ .nil))) <;> simp
  obtain ⟨succeeds, agree⟩ := suite_of_reordered alike
  obtain ⟨suite, loads⟩ := exists_suite_nightly
  obtain ⟨suite', loads'⟩ := succeeds.mp ⟨suite, loads⟩
  obtain ⟨groups, resolves⟩ := agree suite suite' loads loads'
  obtain ⟨resolution, resolution', resolved, resolved', selected, -⟩ := resolves []
  cases resolved
  cases resolved'
  exact ⟨alike, suite, suite', loads, loads', groups, selected⟩

end Manifest

end BenchSuite
