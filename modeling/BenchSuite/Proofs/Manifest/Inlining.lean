import BenchSuite.Proofs.Manifest.OwnNames
import BenchSuite.Proofs.Selection.Parts

/-!
# Groups written out

All members of a group of a suite are benchmarks, so that each of them can be selected by its name.
Hence a selection of the group may be replaced by selections of its members, wherever it stands.
There is one exception: an inclusion of an empty group still restricts, while no selections at all do
not.  If such an inclusion is the only one of a list, the list selects nothing, and without it the
list selects all that is not excluded.
-/

namespace BenchSuite

namespace Catalog

/-- The pattern stands for a group: by its tag, or by its name where no benchmark has this name. -/
inductive StandsFor (catalog : Catalog) (group : String) : Pattern → Prop
  | tag : StandsFor catalog group (.tag group)
  | name (unregistered : group ∉ catalog.benchmarks) : StandsFor catalog group (.name group)

variable {catalog : Catalog} {group : String} {members : NameSet} {selection : Selection}
  {inlined before after : List Selection} {benchmark : String}

theorem StandsFor.matched?_eq {pattern : Pattern} (stands : catalog.StandsFor group pattern) :
    catalog.matched? pattern = catalog.groups.get? group := by
  cases stands with
  | tag => rfl
  | name unregistered => simp [matched?, hasBenchmark, unregistered]

section

variable (found : catalog.groups.get? group = some members)
  (stands : catalog.StandsFor group selection.pattern)

include found stands

theorem covers_iff_of_standsFor : catalog.Covers selection benchmark ↔ benchmark ∈ members := by
  rw [← mem_matched?_iff_covers, stands.matched?_eq, found, Option.getD_some]

theorem knows_of_standsFor : catalog.Knows selection.pattern := by
  rw [← matched?_isSome_iff_knows, stands.matched?_eq, found, Option.isSome_some]

/-- Neither a known group nor its members are reported as unmatched. -/
theorem resolve_unmatched_inlined (registered : ∀ member ∈ members, member ∈ catalog.benchmarks)
    (each : NamesEach selection.operator members.toList inlined) :
    (catalog.resolve [selection]).unmatched = (catalog.resolve inlined).unmatched := by
  rw [each.unmatched_eq_nil registered, resolve_eq]
  simp [knows_of_standsFor found stands]

/-- A selection of a group of benchmarks does what the selections of its members do, unless it is
the only inclusion and the group is empty. -/
theorem resolve_inlined (registered : ∀ member ∈ members, member ∈ catalog.benchmarks)
    (each : NamesEach selection.operator members.toList inlined)
    (keeps : selection.operator = .exclusion ∨ members ≠ ∅ ∨ Restricts (before ++ after)) :
    catalog.resolve (before ++ [selection] ++ after) =
      catalog.resolve (before ++ inlined ++ after) := by
  apply resolve_replace
  · simp only [restricts_append_iff, restricts_singleton_iff, each.restricts_iff, ne_eq,
      NameSet.toList_eq_nil_iff] at keeps ⊢
    rcases keeps with excludes | nonempty | elsewhere
    · simp [excludes]
    · simp [nonempty]
    · tauto
  · intro operator benchmark
    rw [reaches_singleton_iff, covers_iff_of_standsFor found stands, each.reaches_iff registered,
      NameSet.mem_toList, eq_comm]
  · exact resolve_unmatched_inlined found stands registered each

/-- If an empty group is all that is included, nothing is selected. -/
theorem resolve_benchmarks_of_only_empty (includes : selection.operator = .inclusion)
    (empty : members = ∅) (alone : ¬ Restricts (before ++ after)) :
    (catalog.resolve (before ++ [selection] ++ after)).benchmarks = [] := by
  have restricts : Restricts (before ++ [selection] ++ after) := ⟨selection, by simp, includes⟩
  apply resolve_benchmarks_eq_nil restricts
  intro benchmark reaches
  rw [reaches_append_iff, reaches_append_iff, reaches_singleton_iff,
    covers_iff_of_standsFor found stands, empty] at reaches
  rw [restricts_append_iff, not_or] at alone
  rcases reaches with (early | ⟨-, member⟩) | late
  · exact alone.1 (restricts_of_reaches early)
  · exact NameSet.not_mem_emptyCollection benchmark member
  · exact alone.2 (restricts_of_reaches late)

end

end Catalog

namespace Manifest

variable {manifest : Manifest} {suite : Suite} {group : String} {members : NameSet}
  {selection : Selection} {inlined : List Selection}

/-- In a list of selections, one that stands for a group of a suite may be replaced by selections of
its members, one each and in any order: the same benchmarks are selected, and the same selections
are unmatched.  It must not be the only inclusion of an empty group, though: with it nothing is
selected, and without it whatever no exclusion covers. -/
theorem resolve_inlined_group (loads : manifest.suite = .ok suite)
    (found : suite.groups.get? group = some members)
    (stands : suite.catalog.StandsFor group selection.pattern)
    (each : NamesEach selection.operator members.toList inlined) (before after : List Selection) :
    ∃ resolution resolution',
      suite.catalog.resolveGuarded none (before ++ selection :: after) = .ok resolution ∧
      suite.catalog.resolveGuarded none (before ++ inlined ++ after) = .ok resolution' ∧
      (selection.operator = .exclusion ∨ members ≠ ∅ ∨ Restricts (before ++ after) →
        resolution' = resolution) ∧
      (selection.operator = .inclusion → members = ∅ → ¬ Restricts (before ++ after) →
        resolution.benchmarks = [] ∧ resolution'.unmatched = resolution.unmatched ∧
        ∀ benchmark, benchmark ∈ resolution'.benchmarks ↔
          benchmark ∈ suite.catalog.benchmarks ∧
            ∀ other ∈ before ++ after, ¬ suite.catalog.Covers other benchmark) := by
  obtain ⟨registry, definitions, becomes⟩ := exists_becomes loads
  have registered : ∀ member ∈ members, member ∈ suite.catalog.benchmarks := by
    intro member belongs
    rw [becomes.catalog_benchmarks]
    exact becomes.members_registered group member ⟨members, found, belongs⟩
  rw [List.append_cons]
  refine ⟨_, _, rfl, rfl, fun keeps => ?_, fun includes empty alone => ⟨?_, ?_, ?_⟩⟩
  · exact (Catalog.resolve_inlined found stands registered each keeps).symm
  · exact Catalog.resolve_benchmarks_of_only_empty found stands includes empty alone
  · simp only [Catalog.resolve_unmatched_append,
      Catalog.resolve_unmatched_inlined found stands registered each]
  · have gone : inlined = [] := each.eq_nil_iff.mpr (NameSet.toList_eq_nil_iff.mpr empty)
    have excludes := not_restricts_iff.mp alone
    intro benchmark
    rw [gone, List.append_nil, Catalog.mem_resolve_iff_of_not_restricts alone]
    refine and_congr_right fun _ => ?_
    simp only [Catalog.Reaches, not_exists, not_and]
    exact forall₂_congr fun other listed => by simp [excludes other listed]

/-- In the nightly manifest, `quick` is defined by way of `core`, and `none` is empty. -/
theorem get?_groups_nightly (loads : nightly.suite = .ok suite) :
    suite.groups.get? "quick" = some (NameSet.ofList ["2to3", "core", "nbody"]) ∧
      suite.groups.get? "none" = some ∅ := by
  constructor
  · apply eq_of_map_eq_ok (fun suite => suite.groups.get? "quick") loads
    decide +kernel
  · apply eq_of_map_eq_ok (fun suite => suite.groups.get? "none") loads
    decide +kernel

/-- Writing out a group leaves the same selected; leaving out an empty one selects more. -/
theorem resolve_inlined_group_of_nightly :
    let quick : Selection := ⟨.inclusion, "quick", .name "quick"⟩
    let members : List Selection := ["nbody", "core", "2to3"].map fun name =>
      ⟨.inclusion, name, .name name⟩
    let empty : Selection := ⟨.inclusion, "<none>", .tag "none"⟩
    let dropped : Selection := ⟨.exclusion, "core", .name "core"⟩
    ∃ suite, nightly.suite = .ok suite ∧
      suite.groups.get? "quick" = some (NameSet.ofList ["2to3", "core", "nbody"]) ∧
      suite.groups.get? "none" = some ∅ ∧
      (∃ resolution, suite.catalog.resolveGuarded none [quick, dropped] = .ok resolution ∧
        suite.catalog.resolveGuarded none (members ++ [dropped]) = .ok resolution) ∧
      ∃ resolution resolution',
        suite.catalog.resolveGuarded none [empty, dropped] = .ok resolution ∧
        suite.catalog.resolveGuarded none [dropped] = .ok resolution' ∧
        resolution.benchmarks = [] ∧ "chaos" ∈ resolution'.benchmarks := by
  intro quick members empty dropped
  obtain ⟨suite, loads⟩ := exists_suite_nightly
  obtain ⟨hasQuick, hasNone⟩ := get?_groups_nightly loads
  obtain ⟨registry, definitions, becomes⟩ := exists_becomes loads
  have listed : suite.catalog.benchmarks = ["2to3", "chaos", "core", "nbody"] :=
    becomes.catalog_benchmarks
  refine ⟨suite, loads, hasQuick, hasNone, ?_, ?_⟩
  · have stands : suite.catalog.StandsFor "quick" quick.pattern := .name (by simp [listed])
    have each : NamesEach .inclusion (NameSet.ofList ["2to3", "core", "nbody"]).toList members :=
      ⟨by decide, by decide⟩
    obtain ⟨resolution, resolution', resolves, resolves', same, -⟩ :=
      resolve_inlined_group loads hasQuick stands each [] [dropped]
    obtain rfl := same (.inr (.inl (by decide)))
    exact ⟨resolution', resolves, resolves'⟩
  · have stands : suite.catalog.StandsFor "none" empty.pattern := .tag
    have each : NamesEach .inclusion (∅ : NameSet).toList [] := ⟨by simp, .nil⟩
    obtain ⟨resolution, resolution', resolves, resolves', -, exception⟩ :=
      resolve_inlined_group loads hasNone stands each [] [dropped]
    obtain ⟨nothing, -, selects⟩ := exception rfl rfl (by simp [Restricts, dropped])
    refine ⟨resolution, resolution', resolves, resolves', nothing, (selects "chaos").mpr ?_⟩
    refine ⟨by simp [listed], List.forall_mem_singleton.mpr ?_⟩
    rw [Catalog.covers_name_iff_of_mem (by simp [listed])]
    decide

end Manifest

end BenchSuite
