import BenchSuite.Proofs.Manifest.GroupSearch
import BenchSuite.Proofs.Manifest.Registration

/-!
# Checking a manifest as a whole

The three phases of checking fit together: the groups that need no definition and the definitions
that have been read speak of the same names as the manifest does, and the references between the
definitions are those of the manifest.  So whatever ends the checking of a manifest, the suite is
described by the manifest, or the error is exhibited by it.
-/

namespace BenchSuite

namespace Manifest

variable {manifest : Manifest} {registry : Registry} {definitions : Definitions}

theorem mem_names_implicitGroups {benchmarks : List String} {tagGroups : Groups}
    {group : String} :
    group ∈ (implicitGroups benchmarks definitions tagGroups).names ↔
      group = allGroup ∨ group ∈ tagGroups.names ∨
        group = defaultGroup ∧ defaultGroup ∉ definitions.names := by
  simp only [implicitGroups, NameMap.mem_names_insert, Bool.or_eq_true,
    NameMap.contains_iff_mem_names]
  refine or_congr_right ?_
  split
  · rename_i declared
    constructor
    · exact .inl
    · rintro (tagged | ⟨rfl, undefined⟩)
      · exact tagged
      · exact declared.resolve_right undefined
  · rename_i undeclared
    rw [NameMap.mem_names_insert, or_comm]
    simp [(not_or.mp undeclared).2]

namespace ReadsFrom

variable (reads : manifest.ReadsFrom manifest.definitions.entries definitions)

include reads

theorem mem_names_iff {group : String} :
    group ∈ definitions.names ↔ manifest.Defines group := by
  rw [Defines, NameMap.mem_names_iff, NameMap.mem_names_iff]
  constructor
  · rintro ⟨selections, found⟩
    obtain ⟨tokens, listed, -⟩ := (reads.get?_iff group selections).mp found
    exact ⟨tokens, NameMap.mem_entries_iff.mp listed⟩
  · rintro ⟨tokens, found⟩
    have listed := NameMap.mem_entries_iff.mpr found
    obtain ⟨selections, parses⟩ := reads.parses _ listed
    exact ⟨selections, (reads.get?_iff group selections).mpr ⟨tokens, listed, parses⟩⟩

theorem lists_iff {group : String} {selection : Selection} :
    definitions.Lists group selection ↔ manifest.Lists group selection := by
  simp only [Definitions.Lists, Lists, reads.get?_iff, NameMap.mem_entries_iff]
  constructor
  · rintro ⟨selections, ⟨tokens, found, parses⟩, listed⟩
    exact ⟨tokens, selections, found, parses, listed⟩
  · rintro ⟨tokens, selections, found, parses, listed⟩
    exact ⟨selections, ⟨tokens, found, parses⟩, listed⟩

theorem refers_eq : definitions.Refers manifest.names = manifest.Refers := by
  funext group reference
  simp only [Definitions.Refers, Refers, reads.mem_names_iff, reads.lists_iff]

theorem allowed_of_mem_names {group : String} (defined : group ∈ definitions.names) :
    NameRule.strict.Allows group ∧ group ≠ allGroup ∧ ¬ manifest.HasTag group := by
  obtain ⟨tokens, found⟩ := NameMap.mem_names_iff.mp (reads.mem_names_iff.mp defined)
  exact reads.allowed _ (NameMap.mem_entries_iff.mpr found)

variable (describes : registry.Describes manifest.benchmarks)

include describes

theorem hasGroup_iff {group : String} :
    (group ∈ (implicitGroups manifest.names definitions registry.groups).names ∨
      group ∈ definitions.names) ↔ manifest.HasGroup group := by
  rw [mem_names_implicitGroups, describes.names, HasGroup, ← reads.mem_names_iff, ← HasTag]
  by_cases defined : defaultGroup ∈ definitions.names
  · constructor
    · tauto
    · rintro (tagged | defined | reserved | rfl) <;> tauto
  · tauto

theorem knows_iff {pattern : Pattern} :
    definitions.Knows manifest.names
      (implicitGroups manifest.names definitions registry.groups) pattern ↔
        manifest.Knows pattern := by
  cases pattern with
  | name name => exact or_assoc.trans (or_congr_right (reads.hasGroup_iff describes))
  | tag group => exact reads.hasGroup_iff describes

theorem apart : ∀ group ∈ definitions.names,
    group ∉ (implicitGroups manifest.names definitions registry.groups).names := by
  intro group defined implicit
  obtain ⟨-, unreserved, untagged⟩ := reads.allowed_of_mem_names defined
  rcases mem_names_implicitGroups.mp implicit with reserved | tagged | ⟨rfl, undefined⟩
  · exact unreserved reserved
  · exact untagged ((describes.names group).mp tagged)
  · exact undefined defined

theorem exhibits {error : ManifestError}
    (fault : definitions.Exhibits manifest.names
      (implicitGroups manifest.names definitions registry.groups) error) :
    manifest.Exhibits error := by
  cases error with
  | unknownMember group member =>
      obtain ⟨listed, unknown⟩ := fault
      exact ⟨reads.lists_iff.mp listed, (reads.knows_iff describes).not.mp unknown⟩
  | groupCycle group links =>
      obtain ⟨closes, chain⟩ := fault
      exact ⟨closes, reads.refers_eq ▸ chain⟩
  | malformedName | duplicateBenchmark | reservedGroup | groupConflict => exact fault.elim

end ReadsFrom

/-- How a manifest becomes a suite: by way of a registry and the definitions that have been read. -/
structure Becomes (manifest : Manifest) (registry : Registry) (definitions : Definitions)
    (suite : Suite) : Prop where
  benchmarks : suite.benchmarks = manifest.benchmarks
  index : suite.index = registry.index
  describes : registry.Describes manifest.benchmarks
  reads : manifest.ReadsFrom manifest.definitions.entries definitions
  settled : definitions.Settled manifest.names
    (implicitGroups manifest.names definitions registry.groups) suite.groups
  resolved : ∀ group ∈ definitions.names, group ∈ suite.groups.names

/-- Resolving the groups in any order in which all defined ones occur completes the suite. -/
theorem ends_resolve (describes : registry.Describes manifest.benchmarks)
    (reads : manifest.ReadsFrom manifest.definitions.entries definitions) {order : List String}
    (covers : ∀ group ∈ definitions.names, group ∈ order) :
    Ends (do
        let groups ← order.foldlM (definitions.resolveGroup manifest.names [])
          (implicitGroups manifest.names definitions registry.groups)
        pure ⟨manifest.benchmarks, registry.index, groups⟩)
      (manifest.Becomes registry definitions) manifest.Exhibits := by
  have settled : definitions.Settled manifest.names
      (implicitGroups manifest.names definitions registry.groups)
      (implicitGroups manifest.names definitions registry.groups) :=
    Definitions.Settled.start (reads.apart describes)
  refine Ends.bind ((Definitions.ends_foldlM_resolveGroup order settled).mono
    (fun _ ends => ends) fun _ fault => reads.exhibits describes fault) ?_
  rintro groups ⟨settled, resolved⟩
  exact ⟨rfl, rfl, describes, reads, settled,
    fun group defined => resolved group (covers group defined) defined⟩

/-- Checking a manifest ends with the suite that it becomes or with an error that it exhibits. -/
theorem ends_suite (manifest : Manifest) :
    Ends manifest.suite
      (fun suite => ∃ registry definitions, manifest.Becomes registry definitions suite)
      manifest.Exhibits := by
  refine (Registry.ends_registerAll manifest).bind fun registry describes => ?_
  refine (ends_readAll describes).bind fun definitions reads => ?_
  refine (ends_resolve describes reads fun _ defined => defined).mono ?_ fun _ fault => fault
  exact fun suite becomes => ⟨registry, definitions, becomes⟩

theorem exists_becomes {suite : Suite} (loads : manifest.suite = .ok suite) :
    ∃ registry definitions, manifest.Becomes registry definitions suite :=
  (ends_suite manifest).of_ok loads

/-- A manifest in which definitions share references and a benchmark has the name of a group. -/
def nightly : Manifest where
  benchmarks :=
    [⟨"2to3", ["apps"]⟩, ⟨"chaos", ["math"]⟩, ⟨"core", ["apps"]⟩, ⟨"nbody", ["math"]⟩]
  definitions := NameMap.ofList
    [("core", ["<apps>", "nbody"]), ("quick", ["<core>", "-chaos"]), ("none", []),
      ("slow", ["-<quick>", "-2to3"]), ("weekly", ["core", "<quick>", "slow", "-<none>"])]

theorem exists_suite_nightly : ∃ suite, nightly.suite = .ok suite :=
  exists_eq_ok (by decide +kernel)

end Manifest

end BenchSuite
