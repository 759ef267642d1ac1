import BenchSuite.Proofs.Selection.Concreteness
import BenchSuite.Proofs.Selection.Parts

/-!
# Exclusions that pass a guard

A guard that watches for the names of groups lets the exclusion of a name pass only if no group has
this name.  Such an exclusion takes away the benchmark of this name and nothing else, so that without
it the list still passes and selects the same benchmarks and this one.  If the guard watches for tags
as well, nothing is taken away from what is asked for but benchmarks that are excluded by their own
names.
-/

namespace BenchSuite

namespace NegationGuard

variable {guard : NegationGuard} {catalog : Catalog} {selections before after : List Selection}
  {selection : Selection}

theorem Passes.not_negatesGroup (passes : guard.Passes catalog selections)
    (listed : selection ∈ selections) : ¬ guard.NegatesGroup catalog selection :=
  fun negates => passes_iff.mp passes selection listed (.inr negates)

theorem Passes.without (passes : guard.Passes catalog (before ++ [selection] ++ after)) :
    guard.Passes catalog (before ++ after) := by
  intro other listed
  apply passes
  rcases List.mem_append.mp listed with early | late
  · exact List.mem_append_left after (List.mem_append_left [selection] early)
  · exact List.mem_append_right (before ++ [selection]) late

/-- An exclusion that passes names no group, if the guard watches for its kind of pattern. -/
theorem Passes.not_mem_groups (passes : guard.Passes catalog selections)
    (listed : selection ∈ selections) (excludes : selection.operator = .exclusion)
    (watched : guard.watches selection.pattern = true) :
    selection.pattern.identifier ∉ catalog.groups.names := by
  intro known
  apply passes.not_negatesGroup listed
  rw [negatesGroup_iff, watched, Catalog.hasGroup, NameMap.contains_iff_mem_names.mpr known]
  simp [Selection.isExclusion, excludes]

end NegationGuard

namespace Catalog

variable {catalog : Catalog} {guard : NegationGuard} {selections before after : List Selection}
  {selection : Selection} {name benchmark : String}

theorem not_hasMember_of_ungrouped (ungrouped : name ∉ catalog.groups.names) :
    ¬ catalog.groups.HasMember name benchmark := by
  rintro ⟨members, found, -⟩
  exact ungrouped (NameMap.mem_names_iff.mpr ⟨members, found⟩)

section

variable (ungrouped : name ∉ catalog.groups.names) (excludes : selection.operator = .exclusion)
  (named : selection.pattern = .name name)

include ungrouped named

/-- A name that no group has covers its own benchmark at most. -/
theorem covers_iff_of_ungrouped :
    catalog.Covers selection benchmark ↔ benchmark = name ∧ benchmark ∈ catalog.benchmarks := by
  constructor
  · rintro (⟨same, registered⟩ | ⟨group, tagged | ⟨same, -⟩, member⟩)
    · rw [named] at same
      exact ⟨(Pattern.name.inj same).symm, registered⟩
    · rw [named] at tagged
      cases tagged
    · rw [named] at same
      cases same
      exact (not_hasMember_of_ungrouped ungrouped member).elim
  · rintro ⟨rfl, registered⟩
    exact .inl ⟨named, registered⟩

theorem unmatched_singleton_of_ungrouped :
    (catalog.resolve [selection]).unmatched =
      if name ∈ catalog.benchmarks then [] else [selection] := by
  have known : catalog.Knows selection.pattern ↔ name ∈ catalog.benchmarks := by
    rw [named, Knows, or_iff_left ungrouped]
  by_cases registered : name ∈ catalog.benchmarks <;> simp [resolve_eq, known, registered]

include excludes

theorem selects_iff_without (registered : benchmark ∈ catalog.benchmarks) :
    catalog.Selects (before ++ [selection] ++ after) benchmark ↔
      benchmark ≠ name ∧ catalog.Selects (before ++ after) benchmark := by
  have covers : catalog.Covers selection benchmark ↔ benchmark = name := by
    rw [covers_iff_of_ungrouped ungrouped named, and_iff_left registered]
  have excluded : catalog.Reaches .exclusion (before ++ [selection] ++ after) benchmark ↔
      benchmark = name ∨ catalog.Reaches .exclusion (before ++ after) benchmark := by
    simp only [reaches_append_iff, reaches_singleton_iff, excludes, covers, true_and]
    rw [or_right_comm, or_comm]
  have included : catalog.Reaches .inclusion (before ++ [selection] ++ after) benchmark ↔
      catalog.Reaches .inclusion (before ++ after) benchmark := by
    simp only [reaches_append_iff, reaches_singleton_iff, excludes, reduceCtorEq, false_and,
      or_false]
  have restricts : Restricts (before ++ [selection] ++ after) ↔ Restricts (before ++ after) := by
    simp only [restricts_append_iff, restricts_singleton_iff, excludes, reduceCtorEq, or_false]
  rw [selects_iff_reaches, excluded, included, restricts, not_or, and_assoc]
  rfl

/-- Excluding a name that no group has takes the benchmark of this name away, and no other. -/
theorem resolve_benchmarks_eq_filter :
    (catalog.resolve (before ++ [selection] ++ after)).benchmarks =
      (catalog.resolve (before ++ after)).benchmarks.filter (· ≠ name) := by
  simp only [resolve_eq, List.filter_filter]
  apply List.filter_congr
  intro benchmark registered
  rw [Bool.eq_iff_iff, Bool.and_eq_true, decide_eq_true_eq, decide_eq_true_eq, decide_eq_true_eq]
  exact selects_iff_without ungrouped excludes named registered

end

/-- Where the guard watches for groups of both kinds, an exclusion that passes covers the benchmark
that it names and no other. -/
theorem named_of_passes (passes : guard.Passes catalog selections)
    (names : guard.groupNames = true) (tags : guard.tags = true) (listed : selection ∈ selections)
    (excludes : selection.operator = .exclusion) (covers : catalog.Covers selection benchmark) :
    selection.pattern = .name benchmark := by
  have watched : guard.watches selection.pattern = true := by
    cases selection.pattern with
    | name _ => exact names
    | tag _ => exact tags
  have ungrouped := passes.not_mem_groups listed excludes watched
  rcases covers with ⟨named, -⟩ | ⟨group, tagged | ⟨named, -⟩, member⟩
  · exact named
  · rw [tagged] at ungrouped
    exact (not_hasMember_of_ungrouped ungrouped member).elim
  · rw [named] at ungrouped
    exact (not_hasMember_of_ungrouped ungrouped member).elim

/-- If a guard that watches for the names of groups lets a list of selections pass, each exclusion of
a name in it takes at most one benchmark away: no group has this name, and the list without the
exclusion passes as well and selects the same but for the benchmark of this name.  What is unmatched
is the same, too, but for the exclusion itself where there is no such benchmark.  If the guard
watches for tags as well, every benchmark that is asked for and not selected is excluded by its own
name. -/
theorem resolveGuarded_without_exclusion {resolution : Resolution}
    (watched : guard.groupNames = true)
    (resolves : catalog.resolveGuarded (some guard) selections = .ok resolution) :
    (∀ before selection after name, selections = before ++ selection :: after →
      selection.operator = .exclusion → selection.pattern = .name name →
        name ∉ catalog.groups.names ∧
        ∃ without, catalog.resolveGuarded (some guard) (before ++ after) = .ok without ∧
          resolution.benchmarks = without.benchmarks.filter (· ≠ name) ∧
          ∃ early late, without.unmatched = early ++ late ∧
            resolution.unmatched =
              early ++ (if name ∈ catalog.benchmarks then [] else [selection]) ++ late) ∧
    (guard.tags = true → ∀ benchmark ∈ catalog.benchmarks, benchmark ∉ resolution.benchmarks →
      ¬ Restricts selections ∨ catalog.Reaches .inclusion selections benchmark →
        ∃ selection ∈ selections,
          selection.operator = .exclusion ∧ selection.pattern = .name benchmark) := by
  obtain ⟨passes, rfl⟩ := resolveGuarded_some_eq_ok_iff.mp resolves
  refine ⟨?_, fun tags benchmark registered missing asked => ?_⟩
  · rintro before selection after name rfl excludes named
    have ungrouped : name ∉ catalog.groups.names := by
      have unknown := passes.not_mem_groups (by simp) excludes (named ▸ watched)
      rw [named] at unknown
      exact unknown
    rw [List.append_cons] at passes ⊢
    refine ⟨ungrouped, catalog.resolve (before ++ after), ?_, ?_, ?_⟩
    · exact resolveGuarded_some_eq_ok_iff.mpr ⟨passes.without, rfl⟩
    · exact resolve_benchmarks_eq_filter ungrouped excludes named
    · refine ⟨_, _, resolve_unmatched_append catalog before after, ?_⟩
      rw [resolve_unmatched_append, resolve_unmatched_append,
        unmatched_singleton_of_ungrouped ungrouped named]
  · have excluded : catalog.Reaches .exclusion selections benchmark := by
      by_contra spared
      have selected : catalog.Selects selections benchmark :=
        ⟨spared, fun restricts => asked.resolve_left (not_not.mpr restricts)⟩
      exact missing (mem_resolve_iff.mpr ⟨registered, selected⟩)
    obtain ⟨selection, listed, excludes, covers⟩ := excluded
    exact ⟨selection, listed, excludes,
      named_of_passes passes watched tags listed excludes covers⟩

/-- Among selections that pass, an exclusion takes its benchmark out of a group. -/
theorem resolveGuarded_without_b :
    let catalog : Catalog := ⟨["a", "b", "c"], NameMap.ofList [("g", NameSet.ofList ["a", "b"])]⟩
    let strict : NegationGuard := ⟨true, true⟩
    let tagged : Selection := ⟨.inclusion, "<g>", .tag "g"⟩
    let dashed : Selection := ⟨.exclusion, "b", .name "b"⟩
    catalog.resolveGuarded (some strict) [tagged, dashed] = .ok ⟨["a"], []⟩ ∧
      (∃ without, catalog.resolveGuarded (some strict) [tagged] = .ok without ∧
        ["a"] = without.benchmarks.filter (· ≠ "b")) ∧
      ∃ selection ∈ [tagged, dashed],
        selection.operator = .exclusion ∧ selection.pattern = .name "b" := by
  intro catalog strict tagged dashed
  have resolves : catalog.resolveGuarded (some strict) [tagged, dashed] = .ok ⟨["a"], []⟩ := by
    decide +kernel
  obtain ⟨takesOne, named⟩ := resolveGuarded_without_exclusion rfl resolves
  obtain ⟨-, without, passes, selected, -⟩ := takesOne [tagged] dashed [] "b" rfl rfl rfl
  have asked : catalog.Reaches .inclusion [tagged, dashed] "b" :=
    ⟨tagged, List.mem_cons_self, rfl, by decide +kernel⟩
  exact ⟨resolves, ⟨without, passes, selected⟩,
    named rfl "b" (by decide) (by decide) (.inr asked)⟩

end Catalog

end BenchSuite
