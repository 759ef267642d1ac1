import BenchSuite.Proofs.Manifest.OwnNames
import BenchSuite.Proofs.Run.Stages
import BenchSuite.Proofs.Selection.Concreteness

/-!
# What a guard can refuse in a run

Names are tested in three places: when an expression is read, when a guard looks at its selections,
and when a manifest is checked.  All of them go by the same rules.  So a guard refuses nothing but
exclusions of groups in any expression, in the choice of a user, and among the names that a suite has.
-/

namespace BenchSuite

theorem Choice.not_malformed_of_parse {text : String} {choice : Choice}
    (parsed : parse text = .ok choice) :
    ∀ selection ∈ choice.guarded, ¬ selection.pattern.Malformed := by
  unfold parse at parsed
  split at parsed
  · cases parsed
    exact List.forall_mem_nil _
  · cases listed : Selection.parse (Text.lowercase text) with
    | error error =>
        rw [listed] at parsed
        cases parsed
    | ok selections =>
        rw [listed] at parsed
        cases parsed
        exact Selection.not_malformed_of_parseTokens listed

namespace NegationGuard

/-- Whatever a guard watches for, it refuses nothing but exclusions of groups among selections that
have been read, from an expression or from tokens.  So resolving an expression fails only where the
expression is malformed or excludes such a group, and resolving what a user chooses only for the
latter.  Inclusions of benchmarks and tags by the names that they have in a suite always pass. -/
theorem refuses_only_negations (guard : NegationGuard) :
    (∀ catalog selections, ((∃ expression, Selection.parse expression = .ok selections) ∨
        ∃ tokens, Selection.parseTokens tokens = .ok selections) →
      ∀ error, guard.check catalog selections = .error error →
        guard.RefusesNegation catalog selections error) ∧
    (∀ (catalog : Catalog) expression error,
      catalog.resolveText (some guard) expression = .error error →
        (∃ cause, Selection.parse expression = .error cause ∧ error = .malformed cause) ∨
        ∃ selections, Selection.parse expression = .ok selections ∧
          guard.RefusesNegation catalog selections error) ∧
    (∀ (suite : Suite) text choice, Choice.parse text = .ok choice →
      ∀ world failure after,
        (suite.choose guard choice).outcome world = (.error failure, after) →
          ∃ error, failure = .selection error ∧
            guard.RefusesNegation suite.catalog choice.guarded error) ∧
    ∀ manifest suite, Manifest.suite manifest = .ok suite → ∀ selections,
      (∀ selection ∈ selections, selection.operator = .inclusion ∧
        ((∃ benchmark ∈ suite.catalog.benchmarks, selection.pattern = .name benchmark) ∨
          ∃ group ∈ suite.groups.names, selection.pattern = .tag group)) →
      ∀ catalog, guard.check catalog selections = .ok () := by
  refine ⟨fun catalog selections parsed error fails => ?_, fun catalog expression error fails => ?_,
    fun suite text choice parsed world failure after fails => ?_,
    fun manifest suite loads selections named catalog => ?_⟩
  · have refuses := (ends_check guard catalog selections).of_error fails
    rcases parsed with ⟨expression, parsed⟩ | ⟨tokens, parsed⟩
    · exact refuses.refusesNegation (Selection.not_malformed_of_parseTokens parsed)
    · exact refuses.refusesNegation (Selection.not_malformed_of_parseTokens parsed)
  · cases parsed : Selection.parse expression with
    | error cause =>
        rw [Catalog.resolveText_of_malformed parsed] at fails
        cases fails
        exact .inl ⟨cause, rfl, rfl⟩
    | ok selections =>
        rw [Catalog.resolveText_of_parse parsed] at fails
        have refuses := (catalog.ends_resolveGuarded guard selections).of_error fails
        have concrete := Selection.not_malformed_of_parseTokens parsed
        exact .inr ⟨selections, rfl, refuses.refusesNegation concrete⟩
  · obtain ⟨⟨error, refuses, rfl⟩, -⟩ := (suite.ends_choose guard choice world).of_outcome_error fails
    exact ⟨error, rfl, refuses.refusesNegation (Choice.not_malformed_of_parse parsed)⟩
  · apply check_eq_ok_of_passes
    apply passes_of_inclusions
    · exact fun selection listed => Manifest.not_malformed_of_suite loads (named selection listed).2
    · exact fun selection listed => (named selection listed).1

end NegationGuard

end BenchSuite
