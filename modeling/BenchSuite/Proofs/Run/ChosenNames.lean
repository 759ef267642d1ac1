import BenchSuite.Proofs.Manifest.OwnNames
import BenchSuite.Proofs.Names.SmallLetters
import BenchSuite.Proofs.Run.Stages
import BenchSuite.Proofs.Selection.Concreteness

/-!
# Choosing a benchmark by its own name

A choice is read in small letters, while the names of a suite are compared as they stand.  So the
name of a benchmark, taken for a choice, means what its small form means in the suite.  It selects
the benchmark exactly if the name is in small letters itself, or if the small form is the name of a
group that has no other member.
-/

namespace BenchSuite

theorem Choice.parse_of_plain {name : String} (plain : IsPlainName name) :
    parse name =
      .ok (.selections [⟨.inclusion, Text.lowercase name, .name (Text.lowercase name)⟩]) := by
  have other : name ≠ nothingWord := by
    rintro rfl
    have opening : '<' ∈ nothingWord.toList := by decide
    exact (plain.spelling.2 '<' opening).ne_delimiter.2.1 rfl
  rw [parse, if_neg other, Selection.parse_of_plain plain.lowercase]
  rfl

namespace Suite

variable {suite : Suite} {guard : NegationGuard} {selections : List Selection}

theorem outcome_choose_of_passes (passes : guard.Passes suite.catalog selections) (world : World) :
    ∃ after, (suite.choose guard (.selections selections)).outcome world =
      (.ok (suite.catalog.resolve selections), after) := by
  have ends := suite.ends_choose guard (.selections selections) world
  obtain ⟨resolution, after, ended, -, rfl, -⟩ := ends.exists_outcome_ok (by
    rintro failure after ⟨⟨error, refuses, -⟩, -⟩
    exact refuses.not_passes passes)
  exact ⟨after, ended⟩

end Suite

namespace Manifest

variable {manifest : Manifest} {suite : Suite} {name : String}

/-- The name of a benchmark of a suite, if no dash begins it, is always understood as a choice, and
whatever the guard, choosing by it succeeds.  It selects this benchmark alone, with nothing
unmatched, exactly if the name is its own small form, or if its small form is the name of no
benchmark but of a group whose only member the benchmark is. -/
theorem choose_own_name (loads : manifest.suite = .ok suite)
    (registered : name ∈ suite.catalog.benchmarks) (dashless : name.toList.head? ≠ some '-')
    (guard : NegationGuard) :
    ∃ choice, Choice.parse name = .ok choice ∧ ∀ world, ∃ resolution after,
      (suite.choose guard choice).outcome world = (.ok resolution, after) ∧
      (resolution = ⟨[name], []⟩ ↔
        Text.lowercase name = name ∨ Text.lowercase name ∉ suite.catalog.benchmarks ∧
          ∀ member, suite.groups.HasMember (Text.lowercase name) member ↔ member = name) := by
  obtain ⟨registry, definitions, becomes⟩ := exists_becomes loads
  have plain : IsPlainName name := ⟨becomes.isBenchmarkSpelling registered, dashless⟩
  let chosen : Selection := ⟨.inclusion, Text.lowercase name, .name (Text.lowercase name)⟩
  have concrete : ¬ chosen.pattern.Malformed :=
    Pattern.not_malformed_of_parse (Pattern.parse_of_spelling plain.lowercase.spelling)
  have passes : guard.Passes suite.catalog [chosen] :=
    NegationGuard.passes_of_inclusions (List.forall_mem_singleton.mpr concrete)
      (List.forall_mem_singleton.mpr rfl)
  refine ⟨.selections [chosen], Choice.parse_of_plain plain, fun world => ?_⟩
  obtain ⟨after, ended⟩ := suite.outcome_choose_of_passes passes world
  refine ⟨_, after, ended, ?_⟩
  apply Catalog.resolve_eq_alone_iff _ becomes.nodup_benchmarks registered
  intro group member belongs
  rw [becomes.catalog_benchmarks]
  exact becomes.members_registered group member belongs

/-- The strictest guard lets a name of the suite pass, also if a group has the name as well. -/
theorem choose_core_of_nightly :
    ∃ suite, nightly.suite = .ok suite ∧ "core" ∈ suite.catalog.benchmarks ∧
      "core".toList.head? ≠ some '-' ∧
      ∃ choice, Choice.parse "core" = .ok choice ∧ ∀ world, ∃ after,
        (suite.choose ⟨true, true⟩ choice).outcome world = (.ok ⟨["core"], []⟩, after) := by
  obtain ⟨suite, loads⟩ := exists_suite_nightly
  obtain ⟨registered, -⟩ := core_mem_nightly loads
  have dashless : "core".toList.head? ≠ some '-' := by decide
  have small : Text.lowercase "core" = "core" := by decide +kernel
  obtain ⟨choice, parsed, chooses⟩ := choose_own_name loads registered dashless ⟨true, true⟩
  refine ⟨suite, loads, registered, dashless, choice, parsed, fun world => ?_⟩
  obtain ⟨resolution, after, ended, alone⟩ := chooses world
  rw [alone.mpr (.inl small)] at ended
  exact ⟨after, ended⟩

/-- A manifest in which the name of a benchmark has a capital letter. -/
def capital : Manifest where
  benchmarks := [⟨"Chaos", []⟩]

def capitalSuite : Suite where
  benchmarks := capital.benchmarks
  index := NameMap.ofList [("Chaos", 0)]
  groups := NameMap.ofList [("all", NameSet.ofList ["Chaos"]), ("default", NameSet.ofList ["Chaos"])]

/-- The name with a capital letter selects nothing: no benchmark has its small form for a name. -/
theorem choose_capital_name :
    let chosen : Selection := ⟨.inclusion, "chaos", .name "chaos"⟩
    capital.suite = .ok capitalSuite ∧ "Chaos" ∈ capitalSuite.catalog.benchmarks ∧
      "Chaos".toList.head? ≠ some '-' ∧ Choice.parse "Chaos" = .ok (.selections [chosen]) ∧
      ((capitalSuite.choose {} (.selections [chosen])).outcome).1 = .ok ⟨[], [chosen]⟩ ∧
      ((capitalSuite.choose {} (.selections [chosen])).outcome).1 ≠ .ok ⟨["Chaos"], []⟩ := by
  decide +kernel

end Manifest

end BenchSuite
