import BenchSuite.Proofs.FallibleComputation
import BenchSuite.Selection.NegationGuard
import Mathlib.Data.List.Basic

/-!
# What a list of selections selects

A selection covers the benchmark that it names, or the members of the group that it names.  The
benchmarks that a list of selections asks for are those that no exclusion covers and, if there is
any inclusion at all, some inclusion covers.  Where a selection stands in the list does not matter
for this, and an inclusion that means nothing still restricts the selection to what is included.

The resolver reaches this answer by a single pass over the selections; the pass is described by what
the tally has counted after each of them.
-/

namespace BenchSuite

def Groups.HasMember (groups : Groups) (group member : String) : Prop :=
  ∃ members, groups.get? group = some members ∧ member ∈ members

theorem Groups.hasMember_iff {groups : Groups} {group member : String} :
    groups.HasMember group member ↔ member ∈ (groups.get? group).getD ∅ := by
  cases found : groups.get? group with
  | none => simp [HasMember, found]
  | some members => simp [HasMember, found]

theorem Groups.eq_of_hasMember_iff {first second : Groups}
    (names : ∀ group, group ∈ first.names ↔ group ∈ second.names)
    (members : ∀ group member, first.HasMember group member ↔ second.HasMember group member) :
    first = second := by
  apply NameMap.eq_of_get?_eq
  intro group
  by_cases listed : group ∈ first.names
  · obtain ⟨set, found⟩ := NameMap.mem_names_iff.mp listed
    obtain ⟨set', found'⟩ := NameMap.mem_names_iff.mp ((names group).mp listed)
    have same : set = set' := by
      apply NameSet.eq_of_mem_iff
      intro member
      simpa [hasMember_iff, found, found'] using members group member
    rw [found, found', same]
  · rw [NameMap.get?_eq_none_iff.mpr listed,
      NameMap.get?_eq_none_iff.mpr fun listed' => listed ((names group).mpr listed')]

namespace Catalog

/-- The selection names the benchmark, or it names a group of which the benchmark is a member.  A
plain name means a group only where no benchmark has that name. -/
def Covers (catalog : Catalog) (selection : Selection) (benchmark : String) : Prop :=
  (selection.pattern = .name benchmark ∧ benchmark ∈ catalog.benchmarks) ∨
    ∃ group, (selection.pattern = .tag group ∨
        selection.pattern = .name group ∧ group ∉ catalog.benchmarks) ∧
      catalog.groups.HasMember group benchmark

def Knows (catalog : Catalog) : Pattern → Prop
  | .name name => name ∈ catalog.benchmarks ∨ name ∈ catalog.groups.names
  | .tag group => group ∈ catalog.groups.names

/-- No exclusion covers the benchmark, and some inclusion does if there is any. -/
def Selects (catalog : Catalog) (selections : List Selection) (benchmark : String) : Prop :=
  (¬ ∃ selection ∈ selections,
      selection.operator = .exclusion ∧ catalog.Covers selection benchmark) ∧
    ((∃ selection ∈ selections, selection.operator = .inclusion) →
      ∃ selection ∈ selections,
        selection.operator = .inclusion ∧ catalog.Covers selection benchmark)

theorem mem_matched?_iff_covers {catalog : Catalog} {selection : Selection} {benchmark : String} :
    benchmark ∈ (catalog.matched? selection.pattern).getD ∅ ↔
      catalog.Covers selection benchmark := by
  obtain ⟨operator, text, pattern⟩ := selection
  cases pattern with
  | name name =>
      by_cases registered : name ∈ catalog.benchmarks
      · have matched : catalog.matched? (.name name) = some (NameSet.ofList [name]) := by
          simp [matched?, hasBenchmark, registered]
        simp only [matched, Option.getD_some, NameSet.mem_ofList, List.mem_singleton, Covers]
        constructor
        · rintro rfl
          exact .inl ⟨rfl, registered⟩
        · rintro (⟨same, _⟩ | ⟨group, same | ⟨same, unregistered⟩, _⟩)
          · exact (Pattern.name.inj same).symm
          · cases same
          · cases same
            exact (unregistered registered).elim
      · have matched : catalog.matched? (.name name) = catalog.groups.get? name := by
          simp [matched?, hasBenchmark, registered]
        rw [matched, ← Groups.hasMember_iff]
        constructor
        · intro member
          exact .inr ⟨name, .inr ⟨rfl, registered⟩, member⟩
        · rintro (⟨same, unregistered⟩ | ⟨group, same | ⟨same, _⟩, member⟩)
          · cases same
            exact (registered unregistered).elim
          · cases same
          · cases same
            exact member
  | tag group =>
      change benchmark ∈ (catalog.groups.get? group).getD ∅ ↔ _
      rw [← Groups.hasMember_iff]
      constructor
      · intro member
        exact .inr ⟨group, .inl rfl, member⟩
      · rintro (⟨same, _⟩ | ⟨group, same | ⟨same, _⟩, member⟩)
        · cases same
        · cases same
          exact member
        · cases same

theorem matched?_isSome_iff_knows {catalog : Catalog} {pattern : Pattern} :
    (catalog.matched? pattern).isSome ↔ catalog.Knows pattern := by
  cases pattern with
  | name name =>
      by_cases registered : name ∈ catalog.benchmarks
      · simp [matched?, hasBenchmark, Knows, registered]
      · simp [matched?, hasBenchmark, Knows, registered, NameMap.get?_isSome_iff]
  | tag group => exact NameMap.get?_isSome_iff

instance (catalog : Catalog) (selection : Selection) (benchmark : String) :
    Decidable (catalog.Covers selection benchmark) :=
  decidable_of_iff _ mem_matched?_iff_covers

instance (catalog : Catalog) (pattern : Pattern) : Decidable (catalog.Knows pattern) :=
  decidable_of_iff _ matched?_isSome_iff_knows

instance (catalog : Catalog) (selections : List Selection) (benchmark : String) :
    Decidable (catalog.Selects selections benchmark) :=
  inferInstanceAs (Decidable (_ ∧ _))

end Catalog

namespace Tally

/-- The tally has counted the selections of a list. -/
structure Counts (catalog : Catalog) (selections : List Selection) (tally : Tally) : Prop where
  restricted : tally.restricted = true ↔ ∃ selection ∈ selections, selection.operator = .inclusion
  included : ∀ benchmark, benchmark ∈ tally.included ↔
    ∃ selection ∈ selections, selection.operator = .inclusion ∧ catalog.Covers selection benchmark
  excluded : ∀ benchmark, benchmark ∈ tally.excluded ↔
    ∃ selection ∈ selections, selection.operator = .exclusion ∧ catalog.Covers selection benchmark
  unmatched : tally.unmatched =
    selections.filter fun selection => ¬ catalog.Knows selection.pattern

/-- A selection is counted by applying its operator to the benchmarks it covers, once it has been
noted as unmatched where its pattern is unknown. -/
theorem count_eq_apply (catalog : Catalog) (tally : Tally) (selection : Selection) :
    tally.count catalog selection =
      { tally with
          unmatched := tally.unmatched ++
            if catalog.Knows selection.pattern then [] else [selection] }.apply
        ((catalog.matched? selection.pattern).getD ∅).toList selection.operator := by
  unfold count
  cases matched : catalog.matched? selection.pattern with
  | some members =>
      have known : catalog.Knows selection.pattern := by
        simp [← Catalog.matched?_isSome_iff_knows, matched]
      simp [known]
  | none =>
      have unknown : ¬ catalog.Knows selection.pattern := by
        simp [← Catalog.matched?_isSome_iff_knows, matched]
      simp only [unknown, ↓reduceIte, Option.getD_none]
      rfl

theorem counts_nil (catalog : Catalog) : Counts catalog [] {} where
  restricted := by simp
  included := by simp
  excluded := by simp
  unmatched := rfl

theorem Counts.count {catalog : Catalog} {done : List Selection} {tally : Tally}
    (counts : Counts catalog done tally) (next : Selection) :
    Counts catalog (done ++ [next]) (tally.count catalog next) := by
  have unmatched : tally.unmatched ++ (if catalog.Knows next.pattern then [] else [next]) =
      (done ++ [next]).filter fun selection => ¬ catalog.Knows selection.pattern := by
    rw [List.filter_append, counts.unmatched]
    by_cases known : catalog.Knows next.pattern <;> simp [known]
  rw [count_eq_apply, unmatched]
  cases operator : next.operator with
  | inclusion =>
      refine ⟨?_, fun benchmark => ?_, fun benchmark => ?_, rfl⟩
      · simp only [apply, true_iff]
        exact ⟨next, by simp, operator⟩
      · simp [apply, counts.included, NameSet.mem_toList, Catalog.mem_matched?_iff_covers,
          operator, or_and_right, exists_or]
      · simp [apply, counts.excluded, operator, or_and_right, exists_or]
  | exclusion =>
      refine ⟨?_, fun benchmark => ?_, fun benchmark => ?_, rfl⟩
      · simp [apply, counts.restricted, operator, or_and_right, exists_or]
      · simp [apply, counts.included, operator, or_and_right, exists_or]
      · simp [apply, counts.excluded, NameSet.mem_toList, Catalog.mem_matched?_iff_covers,
          operator, or_and_right, exists_or]

theorem counts_foldl (catalog : Catalog) (selections : List Selection) :
    Counts catalog selections (selections.foldl (Tally.count catalog) {}) := by
  induction selections using List.reverseRecOn with
  | nil => exact counts_nil catalog
  | append_singleton done next ih =>
      rw [List.foldl_append]
      exact ih.count next

theorem Counts.selects_iff {catalog : Catalog} {selections : List Selection} {tally : Tally}
    (counts : Counts catalog selections tally) (benchmark : String) :
    tally.selects benchmark = true ↔ catalog.Selects selections benchmark := by
  simp only [selects, Catalog.Selects, Bool.and_eq_true, Bool.or_eq_true, Bool.not_eq_true',
    decide_eq_true_eq, ← counts.restricted, ← counts.included, ← counts.excluded]
  cases tally.restricted <;> simp [and_comm]

end Tally

namespace Catalog

/-- Resolving keeps, in their orders, the benchmarks that are selected and the selections whose
patterns are unknown. -/
theorem resolve_eq (catalog : Catalog) (selections : List Selection) :
    catalog.resolve selections =
      { benchmarks := catalog.benchmarks.filter fun benchmark =>
          catalog.Selects selections benchmark
        unmatched := selections.filter fun selection => ¬ catalog.Knows selection.pattern } := by
  have counts := Tally.counts_foldl catalog selections
  have selected : (selections.foldl (Tally.count catalog) {}).selects =
      fun benchmark => decide (catalog.Selects selections benchmark) := by
    funext benchmark
    rw [Bool.eq_iff_iff, decide_eq_true_eq]
    exact counts.selects_iff benchmark
  simp only [resolve, selected, counts.unmatched]

theorem Covers.knows {catalog : Catalog} {selection : Selection} {benchmark : String}
    (covers : catalog.Covers selection benchmark) : catalog.Knows selection.pattern := by
  rw [← mem_matched?_iff_covers] at covers
  rw [← matched?_isSome_iff_knows]
  cases matched : catalog.matched? selection.pattern with
  | none => simp [matched] at covers
  | some members => rfl

/-- Only the meaning of the patterns that occur matters to the resolution. -/
theorem resolve_congr {first second : Catalog} {selections : List Selection}
    (benchmarks : first.benchmarks = second.benchmarks)
    (same : ∀ selection ∈ selections,
      first.matched? selection.pattern = second.matched? selection.pattern) :
    first.resolve selections = second.resolve selections := by
  have tally : selections.foldl (Tally.count first) {} =
      selections.foldl (Tally.count second) {} := by
    apply List.foldl_ext
    intro tally selection listed
    simp only [Tally.count, same selection listed]
  simp only [resolve, benchmarks, tally]

/-- In a catalog that lists the same benchmarks in another order, the same ones are selected and the
same selections are unmatched. -/
theorem resolve_perm {benchmarks reordered : List String} (groups : Groups)
    (permuted : benchmarks.Perm reordered) (selections : List Selection) :
    (resolve ⟨benchmarks, groups⟩ selections).benchmarks.Perm
        (resolve ⟨reordered, groups⟩ selections).benchmarks ∧
      (resolve ⟨benchmarks, groups⟩ selections).unmatched =
        (resolve ⟨reordered, groups⟩ selections).unmatched := by
  have covers (selection : Selection) (benchmark : String) :
      Covers ⟨benchmarks, groups⟩ selection benchmark ↔
        Covers ⟨reordered, groups⟩ selection benchmark := by
    simp only [Covers, permuted.mem_iff]
  have selects (benchmark : String) :
      Selects ⟨benchmarks, groups⟩ selections benchmark ↔
        Selects ⟨reordered, groups⟩ selections benchmark := by
    simp only [Selects, covers]
  have knows (pattern : Pattern) :
      Knows ⟨benchmarks, groups⟩ pattern ↔ Knows ⟨reordered, groups⟩ pattern := by
    cases pattern <;> simp only [Knows, permuted.mem_iff]
  simp only [resolve_eq, selects, knows, and_true]
  exact permuted.filter _

/-- Resolving without a guard always succeeds.  It selects exactly the benchmarks that no exclusion
covers and, where there is an inclusion, some inclusion covers, and it reports exactly the
selections that name neither a benchmark nor a group.  So an exclusion wins over every inclusion,
unknown inclusions alone select nothing, and distinct benchmarks stay distinct. -/
theorem resolveGuarded_none_exact (catalog : Catalog) (selections : List Selection) :
    ∃ resolution, catalog.resolveGuarded none selections = .ok resolution ∧
      resolution.benchmarks =
        (catalog.benchmarks.filter fun benchmark => catalog.Selects selections benchmark) ∧
      resolution.unmatched =
        (selections.filter fun selection => ¬ catalog.Knows selection.pattern) ∧
      (∀ selection ∈ selections, selection.operator = .exclusion →
        ∀ benchmark, catalog.Covers selection benchmark → benchmark ∉ resolution.benchmarks) ∧
      ((∃ selection ∈ selections, selection.operator = .inclusion) →
        (∀ selection ∈ selections, selection.operator = .inclusion →
          ¬ catalog.Knows selection.pattern) → resolution.benchmarks = []) ∧
      (catalog.benchmarks.Nodup → resolution.benchmarks.Nodup) := by
  refine ⟨catalog.resolve selections, rfl, ?_⟩
  rw [resolve_eq]
  refine ⟨rfl, rfl, ?_, ?_, ?_⟩
  · intro selection listed excludes benchmark covers member
    obtain ⟨-, selected⟩ := List.mem_filter.mp member
    have spared := (of_decide_eq_true selected).1
    exact spared ⟨selection, listed, excludes, covers⟩
  · intro restricted unknown
    apply List.filter_eq_nil_iff.mpr
    intro benchmark _ selected
    obtain ⟨selection, listed, includes, covers⟩ := (of_decide_eq_true selected).2 restricted
    exact unknown selection listed includes covers.knows
  · intro distinct
    exact distinct.filter _

end Catalog

end BenchSuite
