import BenchSuite.Proofs.Selection.PlainNames
import Mathlib.Data.List.Perm.Basic

/-!
# Parts of a list of selections

A list of selections reaches the benchmarks that its parts reach, under each operator, and reports
what its parts report.  So a part of a list may be replaced by another that reaches the same
benchmarks and reports the same selections, as long as this does not take the only inclusions away
or bring in the first.

A part that names every benchmark of a list, all under one operator, reaches just these benchmarks
and reports nothing.
-/

namespace BenchSuite

attribute [ext] Resolution

/-- Something is included, so that only what is included is selected. -/
def Restricts (selections : List Selection) : Prop :=
  ∃ selection ∈ selections, selection.operator = .inclusion

theorem restricts_append_iff {first second : List Selection} :
    Restricts (first ++ second) ↔ Restricts first ∨ Restricts second := by
  simp only [Restricts, List.mem_append, or_and_right, exists_or]

theorem restricts_singleton_iff {selection : Selection} :
    Restricts [selection] ↔ selection.operator = .inclusion := by
  simp [Restricts]

theorem not_restricts_iff {selections : List Selection} :
    ¬ Restricts selections ↔ ∀ selection ∈ selections, selection.operator = .exclusion := by
  simp only [Restricts, not_exists, not_and]
  refine forall₂_congr fun selection _ => ?_
  cases selection.operator <;> simp

namespace Catalog

/-- Some selection of the list, under the operator, covers the benchmark. -/
def Reaches (catalog : Catalog) (operator : Operator) (selections : List Selection)
    (benchmark : String) : Prop :=
  ∃ selection ∈ selections, selection.operator = operator ∧ catalog.Covers selection benchmark

variable {catalog : Catalog} {operator : Operator} {first second selections : List Selection}
  {benchmark : String}

theorem selects_iff_reaches :
    catalog.Selects selections benchmark ↔
      ¬ catalog.Reaches .exclusion selections benchmark ∧
        (Restricts selections → catalog.Reaches .inclusion selections benchmark) :=
  Iff.rfl

theorem reaches_append_iff :
    catalog.Reaches operator (first ++ second) benchmark ↔
      catalog.Reaches operator first benchmark ∨ catalog.Reaches operator second benchmark := by
  simp only [Reaches, List.mem_append, or_and_right, exists_or]

theorem reaches_singleton_iff {selection : Selection} :
    catalog.Reaches operator [selection] benchmark ↔
      selection.operator = operator ∧ catalog.Covers selection benchmark := by
  simp [Reaches]

theorem restricts_of_reaches (reaches : catalog.Reaches .inclusion selections benchmark) :
    Restricts selections := by
  obtain ⟨selection, listed, includes, -⟩ := reaches
  exact ⟨selection, listed, includes⟩

theorem resolve_benchmarks_sublist (catalog : Catalog) (selections : List Selection) :
    (catalog.resolve selections).benchmarks.Sublist catalog.benchmarks := by
  rw [resolve_eq]
  exact List.filter_sublist

theorem mem_resolve_iff :
    benchmark ∈ (catalog.resolve selections).benchmarks ↔
      benchmark ∈ catalog.benchmarks ∧ catalog.Selects selections benchmark := by
  simp [resolve_eq]

/-- Where nothing is included, all that is not excluded is selected. -/
theorem mem_resolve_iff_of_not_restricts (unrestricted : ¬ Restricts selections) :
    benchmark ∈ (catalog.resolve selections).benchmarks ↔
      benchmark ∈ catalog.benchmarks ∧ ¬ catalog.Reaches .exclusion selections benchmark := by
  simp [mem_resolve_iff, selects_iff_reaches, unrestricted]

/-- If the inclusions reach nothing, nothing is selected. -/
theorem resolve_benchmarks_eq_nil (restricts : Restricts selections)
    (unreached : ∀ benchmark, ¬ catalog.Reaches .inclusion selections benchmark) :
    (catalog.resolve selections).benchmarks = [] := by
  apply List.eq_nil_iff_forall_not_mem.mpr
  intro benchmark member
  have selected := selects_iff_reaches.mp (mem_resolve_iff.mp member).2
  exact unreached benchmark (selected.2 restricts)

theorem resolve_unmatched_append (catalog : Catalog) (first second : List Selection) :
    (catalog.resolve (first ++ second)).unmatched =
      (catalog.resolve first).unmatched ++ (catalog.resolve second).unmatched := by
  simp only [resolve_eq, List.filter_append]

/-- Lists that reach the same benchmarks, and include anything or not alike, select the same. -/
theorem resolve_benchmarks_eq_of_reaches (restricts : Restricts first ↔ Restricts second)
    (reaches : ∀ operator benchmark,
      catalog.Reaches operator first benchmark ↔ catalog.Reaches operator second benchmark) :
    (catalog.resolve first).benchmarks = (catalog.resolve second).benchmarks := by
  have selects (benchmark : String) :
      catalog.Selects first benchmark ↔ catalog.Selects second benchmark := by
    rw [selects_iff_reaches, selects_iff_reaches, restricts, reaches, reaches]
  simp only [resolve_eq, selects]

/-- Replacing a part of a list by another that reaches and reports the same makes no difference. -/
theorem resolve_replace {part other before after : List Selection}
    (restricts : Restricts (before ++ part ++ after) ↔ Restricts (before ++ other ++ after))
    (reaches : ∀ operator benchmark,
      catalog.Reaches operator part benchmark ↔ catalog.Reaches operator other benchmark)
    (unmatched : (catalog.resolve part).unmatched = (catalog.resolve other).unmatched) :
    catalog.resolve (before ++ part ++ after) = catalog.resolve (before ++ other ++ after) := by
  have benchmarks : (catalog.resolve (before ++ part ++ after)).benchmarks =
      (catalog.resolve (before ++ other ++ after)).benchmarks := by
    apply resolve_benchmarks_eq_of_reaches restricts
    intro operator benchmark
    simp only [reaches_append_iff, reaches]
  have reported : (catalog.resolve (before ++ part ++ after)).unmatched =
      (catalog.resolve (before ++ other ++ after)).unmatched := by
    simp only [resolve_unmatched_append, unmatched]
  exact Resolution.ext benchmarks reported

end Catalog

/-- The selections name the benchmarks of a list, one selection for each of them and in any order,
all under the same operator. -/
structure NamesEach (operator : Operator) (names : List String) (selections : List Selection) :
    Prop where
  operators : ∀ selection ∈ selections, selection.operator = operator
  patterns : (selections.map Selection.pattern).Perm (names.map Pattern.name)

namespace NamesEach

variable {catalog : Catalog} {operator : Operator} {names : List String}
  {selections : List Selection} (each : NamesEach operator names selections)

include each

theorem exists_of_mem {selection : Selection} (listed : selection ∈ selections) :
    ∃ name ∈ names, selection.pattern = .name name := by
  have occurs := each.patterns.mem_iff.mp (List.mem_map_of_mem listed)
  obtain ⟨name, member, same⟩ := List.mem_map.mp occurs
  exact ⟨name, member, same.symm⟩

theorem exists_of_name {name : String} (member : name ∈ names) :
    ∃ selection ∈ selections, selection.pattern = .name name :=
  List.mem_map.mp (each.patterns.mem_iff.mpr (List.mem_map_of_mem member))

theorem eq_nil_iff : selections = [] ↔ names = [] := by
  have same : selections.length = names.length := by simpa using each.patterns.length_eq
  rw [← List.length_eq_zero_iff, same, List.length_eq_zero_iff]

theorem restricts_iff : Restricts selections ↔ operator = .inclusion ∧ names ≠ [] := by
  rw [ne_eq, ← each.eq_nil_iff]
  constructor
  · rintro ⟨selection, listed, includes⟩
    exact ⟨each.operators selection listed ▸ includes, List.ne_nil_of_mem listed⟩
  · rintro ⟨rfl, nonempty⟩
    obtain ⟨selection, listed⟩ := List.exists_mem_of_ne_nil selections nonempty
    exact ⟨selection, listed, each.operators selection listed⟩

variable (registered : ∀ name ∈ names, name ∈ catalog.benchmarks)

include registered

theorem reaches_iff {other : Operator} {benchmark : String} :
    catalog.Reaches other selections benchmark ↔ other = operator ∧ benchmark ∈ names := by
  constructor
  · rintro ⟨⟨applied, text, pattern⟩, listed, rfl, covers⟩
    obtain ⟨name, member, rfl⟩ := each.exists_of_mem listed
    obtain rfl := (Catalog.covers_name_iff_of_mem (registered name member)).mp covers
    exact ⟨each.operators _ listed, member⟩
  · rintro ⟨rfl, member⟩
    obtain ⟨selection, listed, named⟩ := each.exists_of_name member
    exact ⟨selection, listed, each.operators selection listed,
      .inl ⟨named, registered benchmark member⟩⟩

theorem unmatched_eq_nil : (catalog.resolve selections).unmatched = [] := by
  rw [Catalog.resolve_eq]
  apply List.filter_eq_nil_iff.mpr
  intro selection listed
  obtain ⟨name, member, named⟩ := each.exists_of_mem listed
  have known : catalog.Knows selection.pattern := by
    rw [named]
    exact .inl (registered name member)
  simpa using known

end NamesEach

end BenchSuite
