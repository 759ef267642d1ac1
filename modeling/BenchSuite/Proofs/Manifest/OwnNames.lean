import BenchSuite.Proofs.Manifest.Representation
import BenchSuite.Proofs.Selection.Guarding
import BenchSuite.Proofs.Selection.PlainNames
import BenchSuite.Proofs.Selection.Unsupported

/-!
# Selecting a benchmark by its own name

The rule for benchmarks allows the names that stand for themselves in an expression, and besides them
those that begin with a dash.  So every registered benchmark whose name has no dash in front is
selected by this name, also where a group has the same name.  A name with a dash in front, taken for
an expression, is an exclusion.
-/

namespace BenchSuite

namespace Manifest

variable {manifest : Manifest} {suite : Suite} {name : String}

namespace Becomes

variable {registry : Registry} {definitions : Definitions}
  (becomes : manifest.Becomes registry definitions suite)

include becomes

theorem isBenchmarkSpelling (registered : name ∈ suite.catalog.benchmarks) :
    IsBenchmarkSpelling name.toList := by
  rw [becomes.catalog_benchmarks] at registered
  obtain ⟨benchmark, declared, rfl⟩ := List.mem_map.mp registered
  exact NameRule.numericStart_allows_iff.mp (becomes.describes.names_allowed benchmark declared)

theorem nodup_benchmarks : suite.catalog.benchmarks.Nodup := by
  rw [becomes.catalog_benchmarks]
  exact becomes.describes.distinct

end Becomes

/-- The names of benchmarks and of groups that a suite has are well formed. -/
theorem not_malformed_of_suite {pattern : Pattern} (loads : manifest.suite = .ok suite)
    (named : (∃ benchmark ∈ suite.catalog.benchmarks, pattern = .name benchmark) ∨
      ∃ group ∈ suite.groups.names, pattern = .tag group) : ¬ pattern.Malformed := by
  obtain ⟨registry, definitions, becomes⟩ := exists_becomes loads
  rcases named with ⟨benchmark, registered, rfl⟩ | ⟨group, listed, rfl⟩
  · rintro ⟨refused⟩
    have spelling := becomes.isBenchmarkSpelling registered
    exact refused (NameRule.numericStart_allows_iff.mpr spelling)
  · rintro (_ | refused)
    exact refused (becomes.groups_allowed group listed)

/-- Every benchmark of a suite whose name begins with no dash is selected by this name, alone and
with nothing unmatched.  A name that begins with a dash is read as the exclusion of the rest of it,
and it is malformed if there is no rest. -/
theorem resolveText_own_name (loads : manifest.suite = .ok suite)
    (registered : name ∈ suite.catalog.benchmarks) :
    (name.toList.head? ≠ some '-' → suite.catalog.resolveText none name = .ok ⟨[name], []⟩) ∧
      ∀ rest, name = "-" ++ rest →
        (rest = "" → suite.catalog.resolveText none name = .error (.malformed ⟨rest, .empty⟩)) ∧
        (rest ≠ "" → suite.catalog.resolveText none name =
          .ok (suite.catalog.resolve [⟨.exclusion, rest, .name rest⟩])) := by
  obtain ⟨registry, definitions, becomes⟩ := exists_becomes loads
  have spelling := becomes.isBenchmarkSpelling registered
  refine ⟨fun dashless => ?_, ?_⟩
  · have parsed := Selection.parse_of_plain ⟨spelling, dashless⟩
    have selected := Catalog.resolve_registered name becomes.nodup_benchmarks registered
    rw [Catalog.resolveText_of_parse parsed]
    exact congrArg Except.ok selected
  · rintro rest rfl
    refine ⟨?_, fun nonempty => ?_⟩
    · rintro rfl
      have malformed : Selection.parse ("-" ++ "") = .error ⟨"", .empty⟩ := by decide +kernel
      exact Catalog.resolveText_of_malformed malformed
    · have spellingRest : IsBenchmarkSpelling rest.toList := by
        refine ⟨by simpa using nonempty, fun c member => ?_⟩
        exact spelling.2 c (by simp [member])
      exact Catalog.resolveText_of_parse (Selection.parse_dash_append spellingRest)

/-- In the nightly manifest, a benchmark and a group have the same name. -/
theorem core_mem_nightly (loads : nightly.suite = .ok suite) :
    "core" ∈ suite.catalog.benchmarks ∧ "core" ∈ suite.groups.names := by
  obtain ⟨registry, definitions, becomes⟩ := exists_becomes loads
  have defined : nightly.Defines "core" := by
    change "core" ∈ nightly.definitions.names
    decide +kernel
  refine ⟨?_, (becomes.mem_groups_iff "core").mpr (.inr (.inl defined))⟩
  rw [becomes.catalog_benchmarks]
  decide

/-- A name that is also the name of a group selects the benchmark alone. -/
theorem resolveText_core_of_nightly :
    ∃ suite, nightly.suite = .ok suite ∧ "core" ∈ suite.catalog.benchmarks ∧
      "core" ∈ suite.groups.names ∧ "core".toList.head? ≠ some '-' ∧
      suite.catalog.resolveText none "core" = .ok ⟨["core"], []⟩ := by
  obtain ⟨suite, loads⟩ := exists_suite_nightly
  obtain ⟨registered, grouped⟩ := core_mem_nightly loads
  have dashless : "core".toList.head? ≠ some '-' := by decide
  exact ⟨suite, loads, registered, grouped, dashless,
    (resolveText_own_name loads registered).1 dashless⟩

/-- A manifest in which the name of a benchmark begins with a dash. -/
def dashed : Manifest where
  benchmarks := [⟨"-a", []⟩, ⟨"b", []⟩]

def dashedSuite : Suite where
  benchmarks := dashed.benchmarks
  index := NameMap.ofList [("-a", 0), ("b", 1)]
  groups := NameMap.ofList
    [("all", NameSet.ofList ["-a", "b"]), ("default", NameSet.ofList ["-a", "b"])]

/-- The name with a dash in front does not select its benchmark alone: it excludes a benchmark that
there is not, and leaves all of them. -/
theorem resolveText_dashed_name :
    dashed.suite = .ok dashedSuite ∧ "-a" ∈ dashedSuite.catalog.benchmarks ∧
      dashedSuite.catalog.resolveText none "-a" =
        .ok ⟨["-a", "b"], [⟨.exclusion, "a", .name "a"⟩]⟩ ∧
      dashedSuite.catalog.resolveText none "-a" ≠ .ok ⟨["-a"], []⟩ := by
  decide +kernel

end Manifest

end BenchSuite
