import BenchSuite.Proofs.Manifest.OwnNames
import BenchSuite.Proofs.Selection.Parts

/-!
# Inclusion and exclusion

Including all patterns of a list selects what some of them covers, and excluding all of them selects
what none of them covers.  So the two results complement each other, unless there are no patterns:
then both of them hold every benchmark.
-/

namespace BenchSuite

/-- The selection with another operator. -/
def Selection.under (operator : Operator) (selection : Selection) : Selection :=
  { selection with operator }

theorem restricts_under_iff {operator : Operator} {selections : List Selection} :
    Restricts (selections.map (Selection.under operator)) ↔
      operator = .inclusion ∧ selections ≠ [] := by
  cases selections <;> simp [Restricts, Selection.under]

namespace Catalog

variable {catalog : Catalog} {selections : List Selection} {benchmark : String}

theorem reaches_under_iff {operator applied : Operator} :
    catalog.Reaches operator (selections.map (Selection.under applied)) benchmark ↔
      applied = operator ∧ ∃ selection ∈ selections, catalog.Covers selection benchmark := by
  have covers (selection : Selection) :
      catalog.Covers (selection.under applied) benchmark ↔ catalog.Covers selection benchmark :=
    Iff.rfl
  simp only [Reaches, List.mem_map, exists_exists_and_eq_and, covers]
  simp only [Selection.under, exists_and_left, and_left_comm]

theorem selects_included_iff (nonempty : selections ≠ []) :
    catalog.Selects (selections.map (Selection.under .inclusion)) benchmark ↔
      ∃ selection ∈ selections, catalog.Covers selection benchmark := by
  simp [selects_iff_reaches, restricts_under_iff, reaches_under_iff, nonempty]

theorem selects_excluded_iff :
    catalog.Selects (selections.map (Selection.under .exclusion)) benchmark ↔
      ¬ ∃ selection ∈ selections, catalog.Covers selection benchmark := by
  simp [selects_iff_reaches, restricts_under_iff, reaches_under_iff]

theorem resolve_nil_benchmarks (catalog : Catalog) :
    (catalog.resolve []).benchmarks = catalog.benchmarks := by
  simp [resolve_eq, Selects]

/-- The benchmarks that are selected by including all patterns are left out by excluding them. -/
theorem resolve_under_perm (nonempty : selections ≠ []) :
    ((catalog.resolve (selections.map (Selection.under .inclusion))).benchmarks ++
      (catalog.resolve (selections.map (Selection.under .exclusion))).benchmarks).Perm
        catalog.benchmarks := by
  simp only [resolve_eq, selects_included_iff nonempty, selects_excluded_iff]
  simpa only [decide_not] using List.filter_append_perm
    (fun benchmark => ∃ selection ∈ selections, catalog.Covers selection benchmark)
    catalog.benchmarks

/-- Whether a selection is unmatched does not depend on its operator. -/
theorem patterns_unmatched_under (operator : Operator) :
    (catalog.resolve (selections.map (Selection.under operator))).unmatched.map Selection.pattern =
      (selections.map Selection.pattern).filter fun pattern => ¬ catalog.Knows pattern := by
  rw [resolve_eq, List.filter_map, List.filter_map, List.map_map]
  rfl

end Catalog

namespace Manifest

variable {manifest : Manifest} {suite : Suite}

/-- Resolving a list of selections once with all of them included and once with all of them excluded
divides the benchmarks of the manifest between the two results, if the list is not empty: the first
holds what is covered and the second all else.  With an empty list both hold every benchmark.  Both
results are in the order of the manifest, and the same patterns are unmatched in the same order. -/
theorem resolve_complementary (loads : manifest.suite = .ok suite) (selections : List Selection) :
    ∃ included excluded,
      suite.catalog.resolveGuarded none (selections.map (Selection.under .inclusion)) =
        .ok included ∧
      suite.catalog.resolveGuarded none (selections.map (Selection.under .exclusion)) =
        .ok excluded ∧
      (selections ≠ [] →
        (included.benchmarks ++ excluded.benchmarks).Perm manifest.names ∧
        ∀ benchmark ∈ manifest.names,
          (benchmark ∈ included.benchmarks ↔
            ∃ selection ∈ selections, suite.catalog.Covers selection benchmark) ∧
          (benchmark ∈ excluded.benchmarks ↔ benchmark ∉ included.benchmarks)) ∧
      (selections = [] →
        included.benchmarks = manifest.names ∧ excluded.benchmarks = manifest.names) ∧
      included.benchmarks.Sublist manifest.names ∧ excluded.benchmarks.Sublist manifest.names ∧
      included.unmatched.map Selection.pattern = excluded.unmatched.map Selection.pattern := by
  obtain ⟨registry, definitions, becomes⟩ := exists_becomes loads
  rw [← becomes.catalog_benchmarks]
  refine ⟨_, _, rfl, rfl, fun nonempty => ⟨?_, fun benchmark registered => ?_⟩, ?_, ?_, ?_, ?_⟩
  · exact Catalog.resolve_under_perm nonempty
  · simp [Catalog.mem_resolve_iff, Catalog.selects_included_iff nonempty,
      Catalog.selects_excluded_iff, registered]
  · rintro rfl
    exact ⟨suite.catalog.resolve_nil_benchmarks, suite.catalog.resolve_nil_benchmarks⟩
  · exact suite.catalog.resolve_benchmarks_sublist _
  · exact suite.catalog.resolve_benchmarks_sublist _
  · rw [Catalog.patterns_unmatched_under, Catalog.patterns_unmatched_under]

/-- Overlapping and unknown patterns divide the benchmarks of the nightly manifest. -/
theorem resolve_complementary_of_nightly :
    let selections : List Selection := ["quick", "nbody", "fannkuch"].map fun name =>
      ⟨.inclusion, name, .name name⟩
    ∃ suite included excluded, nightly.suite = .ok suite ∧
      suite.catalog.resolveGuarded none (selections.map (Selection.under .inclusion)) =
        .ok included ∧
      suite.catalog.resolveGuarded none (selections.map (Selection.under .exclusion)) =
        .ok excluded ∧
      (included.benchmarks ++ excluded.benchmarks).Perm ["2to3", "chaos", "core", "nbody"] ∧
      included.unmatched.map Selection.pattern = excluded.unmatched.map Selection.pattern := by
  intro selections
  obtain ⟨suite, loads⟩ := exists_suite_nightly
  obtain ⟨included, excluded, includes, excludes, divided, -, -, -, unmatched⟩ :=
    resolve_complementary loads selections
  have nonempty : selections ≠ [] := List.cons_ne_nil _ _
  exact ⟨suite, included, excluded, loads, includes, excludes, (divided nonempty).1, unmatched⟩

end Manifest

end BenchSuite
