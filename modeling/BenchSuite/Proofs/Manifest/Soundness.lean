import BenchSuite.Proofs.Manifest.Checking

/-!
# Exactly the sound manifests have suites

A manifest that becomes a suite is free of all defects: those of names and tokens are ruled out by
the first two phases, and the settled groups leave room for neither an unknown reference nor a cycle.
Conversely a manifest without defects exhibits no error, so that checking it cannot fail.
-/

namespace BenchSuite

namespace Manifest

variable {manifest : Manifest}

theorem Becomes.sound {registry : Registry} {definitions : Definitions} {suite : Suite}
    (becomes : manifest.Becomes registry definitions suite) : manifest.Sound where
  names_allowed := by
    intro name listed
    obtain ⟨benchmark, registered, rfl⟩ := List.mem_map.mp listed
    exact becomes.describes.names_allowed benchmark registered
  names_nodup := becomes.describes.distinct
  tags_allowed := by
    rintro tag ⟨benchmark, registered, carried⟩
    exact becomes.describes.tags_allowed benchmark registered tag carried
  groups_allowed := by
    intro group defined
    exact becomes.reads.allowed_of_mem_names (becomes.reads.mem_names_iff.mpr defined)
  definitions_parse := by
    intro group tokens found
    exact becomes.reads.parses _ (NameMap.mem_entries_iff.mpr found)
  acyclic := by
    intro group cycle
    have refers := becomes.reads.refers_eq
    -- A group on a cycle is itself a reference, hence defined and resolved.
    obtain ⟨last, -, returns⟩ := Relation.TransGen.tail'_iff.mp cycle
    have resolved := becomes.resolved group (becomes.reads.mem_names_iff.mpr returns.1)
    rw [← refers] at cycle
    exact becomes.settled.acyclic resolved cycle
  members_known := by
    intro group selection listed
    have lists := becomes.reads.lists_iff.mpr listed
    have resolved : group ∈ suite.groups.names := by
      obtain ⟨selections, found, -⟩ := lists
      exact becomes.resolved group (NameMap.mem_names_iff.mpr ⟨selections, found⟩)
    exact (becomes.reads.knows_iff becomes.describes).mp (becomes.settled.knows resolved lists)

/-- A manifest has a suite exactly if none of the defects occurs in it, and the error reported of any
other manifest names a defect that is really present: the malformed name, the name used twice, the
reserved name, the name declared both as a tag and as a group, the unknown member of the group's
definition, or a chain of references that leads from the group back to it. -/
theorem suite_succeeds_iff_sound (manifest : Manifest) :
    ((∃ suite, manifest.suite = .ok suite) ↔ manifest.Sound) ∧
      ∀ error, manifest.suite = .error error → manifest.Exhibits error := by
  have ends := ends_suite manifest
  refine ⟨⟨?_, ?_⟩, fun error fails => ends.of_error fails⟩
  · rintro ⟨suite, succeeds⟩
    obtain ⟨registry, definitions, becomes⟩ := ends.of_ok succeeds
    exact becomes.sound
  · intro sound
    obtain ⟨suite, succeeds, -⟩ := ends.exists_ok sound.not_exhibits
    exact ⟨suite, succeeds⟩

end Manifest

end BenchSuite
