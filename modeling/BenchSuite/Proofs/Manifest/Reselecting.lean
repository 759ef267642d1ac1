import BenchSuite.Proofs.Manifest.OwnNames
import BenchSuite.Proofs.Selection.Concreteness
import BenchSuite.Proofs.Selection.Parts

/-!
# Selecting what has been selected

The benchmarks that a list of selections selects can be selected again by their names: the result is
the same, in the same order, whatever the order of the names.  Groups that have the names of
benchmarks do not matter, and no guard has anything against inclusions of benchmarks of a suite.
Only if nothing has been selected are there no names to include, and including nothing selects
everything.
-/

namespace BenchSuite

namespace Catalog

variable {catalog : Catalog} {names : List String} {selections again : List Selection}

/-- Including benchmarks by their names selects just these, in the order of the catalog. -/
theorem resolve_of_namesEach (each : NamesEach .inclusion names selections)
    (registered : ∀ name ∈ names, name ∈ catalog.benchmarks) (nonempty : names ≠ []) :
    catalog.resolve selections = ⟨catalog.benchmarks.filter (· ∈ names), []⟩ := by
  have restricts : Restricts selections := each.restricts_iff.mpr ⟨rfl, nonempty⟩
  have selects (benchmark : String) : catalog.Selects selections benchmark ↔ benchmark ∈ names := by
    simp [selects_iff_reaches, each.reaches_iff registered, restricts]
  apply Resolution.ext
  · simp only [resolve_eq, selects]
  · exact each.unmatched_eq_nil registered

theorem filter_mem_resolve (catalog : Catalog) (selections : List Selection) :
    catalog.benchmarks.filter (· ∈ (catalog.resolve selections).benchmarks) =
      (catalog.resolve selections).benchmarks := by
  simp only [resolve_eq]
  apply List.filter_congr
  intro benchmark listed
  simp [listed]

/-- Selecting the selected benchmarks again gives the same benchmarks. -/
theorem resolve_reselected
    (each : NamesEach .inclusion (catalog.resolve selections).benchmarks again)
    (nonempty : (catalog.resolve selections).benchmarks ≠ []) :
    catalog.resolve again = ⟨(catalog.resolve selections).benchmarks, []⟩ := by
  have registered : ∀ name ∈ (catalog.resolve selections).benchmarks, name ∈ catalog.benchmarks :=
    fun _ member => (resolve_benchmarks_sublist catalog selections).subset member
  rw [resolve_of_namesEach each registered nonempty, filter_mem_resolve]

end Catalog

namespace Manifest

variable {manifest : Manifest} {suite : Suite} {guard : Option NegationGuard}
  {selections again : List Selection} {resolution : Resolution}

/-- If some benchmarks of a suite have been selected, including them by their names, one each and in
any order, succeeds under the same guard and selects the same benchmarks in the same order, with
nothing unmatched. -/
theorem resolveGuarded_reselected (loads : manifest.suite = .ok suite)
    (resolves : suite.catalog.resolveGuarded guard selections = .ok resolution)
    (nonempty : resolution.benchmarks ≠ [])
    (each : NamesEach .inclusion resolution.benchmarks again) :
    suite.catalog.resolveGuarded guard again = .ok ⟨resolution.benchmarks, []⟩ := by
  obtain ⟨-, rfl⟩ := Catalog.resolveGuarded_eq_ok_iff.mp resolves
  have concrete : ∀ selection ∈ again, ¬ selection.pattern.Malformed := by
    intro selection listed
    obtain ⟨name, selected, named⟩ := each.exists_of_mem listed
    have registered := (Catalog.mem_resolve_iff.mp selected).1
    exact not_malformed_of_suite loads (.inl ⟨name, registered, named⟩)
  apply Catalog.resolveGuarded_eq_ok_iff.mpr
  refine ⟨fun watchful _ => ?_, (Catalog.resolve_reselected each nonempty).symm⟩
  exact NegationGuard.passes_of_inclusions concrete each.operators

/-- The strictest guard lets the benchmarks of a group be selected again, one of which has the name
of a group. -/
theorem resolveGuarded_reselected_of_nightly :
    let strict : NegationGuard := ⟨true, true⟩
    let again : List Selection := ["nbody", "core", "2to3"].map fun name =>
      ⟨.inclusion, name, .name name⟩
    ∃ suite, nightly.suite = .ok suite ∧
      suite.catalog.resolveGuarded (some strict) [⟨.inclusion, "<quick>", .tag "quick"⟩] =
        .ok ⟨["2to3", "core", "nbody"], []⟩ ∧
      suite.catalog.resolveGuarded (some strict) again = .ok ⟨["2to3", "core", "nbody"], []⟩ := by
  intro strict again
  obtain ⟨suite, loads⟩ := exists_suite_nightly
  have resolves : suite.catalog.resolveGuarded (some strict)
      [⟨.inclusion, "<quick>", .tag "quick"⟩] = .ok ⟨["2to3", "core", "nbody"], []⟩ := by
    apply eq_of_map_eq_ok (fun suite => suite.catalog.resolveGuarded (some strict)
      [⟨.inclusion, "<quick>", .tag "quick"⟩]) loads
    decide +kernel
  have each : NamesEach .inclusion ["2to3", "core", "nbody"] again := ⟨by decide, by decide⟩
  exact ⟨suite, loads, resolves,
    resolveGuarded_reselected loads resolves (List.cons_ne_nil _ _) each⟩

end Manifest

end BenchSuite
