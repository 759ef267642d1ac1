import BenchSuite.Proofs.Manifest.Soundness

/-!
# The equations of the definitions

Each definition is an equation: the members of the group are what the definition means among all the
groups, its own group included.  Although resolving works out each group from those resolved before
it, the result solves all the equations at once.  There is no other solution, since no reference
leads back to where it came from; hence the order of resolving does not matter.
-/

namespace BenchSuite

namespace Definitions

variable {definitions : Definitions} {benchmarks : List String} {base first second : Groups}

def Solves (definitions : Definitions) (benchmarks : List String) (groups : Groups) : Prop :=
  ∀ group selections, definitions.get? group = some selections →
    ∃ members, groups.get? group = some members ∧
      Catalog.Means ⟨benchmarks, groups⟩ selections members

/-- What a selection of a definition is matched with depends on the groups that the definition
refers to, and on groups that are not defined. -/
theorem matched?_eq_of_refers {group : String} {selection : Selection}
    (listed : definitions.Lists group selection)
    (undefined : ∀ name, name ∉ definitions.names → first.get? name = second.get? name)
    (references : ∀ reference, definitions.Refers benchmarks group reference →
      first.get? reference = second.get? reference) :
    Catalog.matched? ⟨benchmarks, first⟩ selection.pattern =
      Catalog.matched? ⟨benchmarks, second⟩ selection.pattern := by
  obtain ⟨operator, text, pattern⟩ := selection
  cases pattern with
  | name name =>
      by_cases registered : name ∈ benchmarks
      · simp [Catalog.matched?, Catalog.hasBenchmark, registered]
      · have same : first.get? name = second.get? name := by
          by_cases defined : name ∈ definitions.names
          · exact references name ⟨defined, _, listed, .inr ⟨rfl, registered⟩⟩
          · exact undefined name defined
        simp [Catalog.matched?, Catalog.hasBenchmark, registered, same]
  | tag tag =>
      change first.get? tag = second.get? tag
      by_cases defined : tag ∈ definitions.names
      · exact references tag ⟨defined, _, listed, .inl rfl⟩
      · exact undefined tag defined

/-- Solutions that agree on the groups without definitions are equal if every chain of references
is finite. -/
theorem Solves.unique (solves : definitions.Solves benchmarks first)
    (solves' : definitions.Solves benchmarks second)
    (undefined : ∀ name, name ∉ definitions.names → first.get? name = second.get? name)
    (grounded : ∀ group ∈ definitions.names,
      Acc (fun reference group => definitions.Refers benchmarks group reference) group) :
    first = second := by
  apply NameMap.eq_of_get?_eq
  intro group
  by_cases defined : group ∈ definitions.names
  · have accessible := grounded group defined
    -- The induction goes from a group to the groups that its definition refers to.
    induction accessible with
    | intro group _ ih =>
        obtain ⟨selections, found⟩ := NameMap.mem_names_iff.mp defined
        obtain ⟨members, resolved, means⟩ := solves group selections found
        obtain ⟨members', resolved', means'⟩ := solves' group selections found
        have meansSecond : Catalog.Means ⟨benchmarks, second⟩ selections members := by
          refine means.congr rfl fun selection listed => ?_
          exact matched?_eq_of_refers ⟨selections, found, listed⟩ undefined
            fun reference refers => ih reference refers refers.1
        rw [resolved, resolved', meansSecond.eq means']
  · exact undefined group defined

namespace Settled

variable {groups : Groups} (settled : definitions.Settled benchmarks base groups)
  (resolved : ∀ group ∈ definitions.names, group ∈ groups.names)

include settled

theorem get?_of_undefined {name : String} (undefined : name ∉ definitions.names) :
    groups.get? name = base.get? name := by
  cases found : base.get? name with
  | some members => exact settled.keeps name members found
  | none =>
      rw [NameMap.get?_eq_none_iff] at found ⊢
      exact fun listed => (settled.only name listed).elim found undefined

include resolved

theorem solves : definitions.Solves benchmarks groups := by
  intro group selections found
  have listed := resolved group (NameMap.mem_names_iff.mpr ⟨selections, found⟩)
  obtain ⟨members, known⟩ := NameMap.mem_names_iff.mp listed
  exact ⟨members, known, settled.solved group selections members found known⟩

theorem eq_of_solves {other : Groups} (solves : definitions.Solves benchmarks other)
    (undefined : ∀ name, name ∉ definitions.names → other.get? name = groups.get? name) :
    other = groups :=
  solves.unique (settled.solves resolved) undefined fun group defined =>
    settled.grounded group (resolved group defined)

end Settled

end Definitions

/-- Every defined group of the suite has the members that its definition means in the suite. -/
def Suite.Satisfies (suite : Suite) (manifest : Manifest) : Prop :=
  ∀ group tokens, manifest.definitions.get? group = some tokens →
    ∃ selections members, Selection.parseTokens tokens = .ok selections ∧
      suite.groups.get? group = some members ∧ suite.catalog.Means selections members

namespace Manifest

variable {manifest : Manifest} {registry : Registry} {definitions : Definitions}

/-- The suite of a manifest whose groups are resolved in another order. -/
def suiteInOrder (manifest : Manifest) (order : List String) : Except ManifestError Suite := do
  let registry ← manifest.benchmarks.zipIdx.foldlM Registry.register {}
  let definitions ← manifest.definitions.entries.foldlM (readDefinition registry.groups) ∅
  let groups ← order.foldlM (definitions.resolveGroup manifest.names [])
    (implicitGroups manifest.names definitions registry.groups)
  pure ⟨manifest.benchmarks, registry.index, groups⟩

theorem ReadsFrom.satisfies_iff (reads : manifest.ReadsFrom manifest.definitions.entries definitions)
    (suite : Suite) (benchmarks : suite.benchmarks = manifest.benchmarks) :
    suite.Satisfies manifest ↔ definitions.Solves manifest.names suite.groups := by
  have catalog : suite.catalog = ⟨manifest.names, suite.groups⟩ := by
    rw [Suite.catalog, benchmarks, names]
  simp only [Suite.Satisfies, catalog, Definitions.Solves, reads.get?_iff, NameMap.mem_entries_iff]
  constructor
  · rintro satisfies group selections ⟨tokens, found, parses⟩
    obtain ⟨selections', members, parses', resolved, means⟩ := satisfies group tokens found
    cases parses.symm.trans parses'
    exact ⟨members, resolved, means⟩
  · intro solves group tokens found
    obtain ⟨selections, parses⟩ := reads.parses _ (NameMap.mem_entries_iff.mpr found)
    obtain ⟨members, resolved, means⟩ := solves group selections ⟨tokens, found, parses⟩
    exact ⟨selections, members, parses, resolved, means⟩

theorem ends_suiteInOrder (manifest : Manifest) {order : List String}
    (covers : ∀ group, manifest.Defines group → group ∈ order) :
    Ends (manifest.suiteInOrder order)
      (fun suite => ∃ registry definitions, manifest.Becomes registry definitions suite)
      manifest.Exhibits := by
  refine (Registry.ends_registerAll manifest).bind fun registry describes => ?_
  refine (ends_readAll describes).bind fun definitions reads => ?_
  refine (ends_resolve describes reads fun group defined =>
    covers group (reads.mem_names_iff.mp defined)).mono ?_ fun _ fault => fault
  exact fun suite becomes => ⟨registry, definitions, becomes⟩

theorem ReadsFrom.unique {manifest' : Manifest} {entries : List (String × List String)}
    {definitions' : Definitions} (reads : manifest.ReadsFrom entries definitions)
    (reads' : manifest'.ReadsFrom entries definitions') : definitions = definitions' := by
  apply NameMap.eq_of_get?_eq
  intro group
  ext selections
  rw [reads.get?_iff, reads'.get?_iff]

theorem Registry.Describes.unique {registry' : Registry} {benchmarks : List Benchmark}
    (describes : registry.Describes benchmarks) (describes' : registry'.Describes benchmarks) :
    registry = registry' := by
  have index : registry.index = registry'.index := by
    apply NameMap.eq_of_get?_eq
    intro name
    ext position
    rw [describes.index, describes'.index]
  have groups : registry.groups = registry'.groups := by
    apply Groups.eq_of_hasMember_iff
    · intro tag
      rw [describes.names, describes'.names]
    · intro tag name
      rw [describes.members, describes'.members]
  cases registry
  cases registry'
  simpa using ⟨index, groups⟩

theorem Becomes.unique {registry' : Registry} {definitions' : Definitions} {suite suite' : Suite}
    (becomes : manifest.Becomes registry definitions suite)
    (becomes' : manifest.Becomes registry' definitions' suite') : suite = suite' := by
  obtain rfl := becomes.describes.unique becomes'.describes
  obtain rfl := becomes.reads.unique becomes'.reads
  have groups : suite.groups = suite'.groups := by
    apply becomes'.settled.eq_of_solves becomes'.resolved
    · exact becomes.settled.solves becomes.resolved
    · intro name undefined
      rw [becomes.settled.get?_of_undefined undefined,
        becomes'.settled.get?_of_undefined undefined]
  cases suite
  cases suite'
  simp only [Suite.mk.injEq]
  exact ⟨becomes.benchmarks.trans becomes'.benchmarks.symm,
    becomes.index.trans becomes'.index.symm, groups⟩

/-- The groups of a suite are the only solution of the equations of the definitions: every defined
group has the members that its definition means among the groups of the finished suite, and groups
that satisfy these equations, and differ in defined groups only, do not differ at all.  Resolving the
definitions in any other order gives the same suite. -/
theorem suite_groups_unique_solution {suite : Suite} (loads : manifest.suite = .ok suite) :
    suite.Satisfies manifest ∧
      (∀ groups : Groups,
        (∀ name, ¬ manifest.Defines name → groups.get? name = suite.groups.get? name) →
          { suite with groups }.Satisfies manifest → groups = suite.groups) ∧
      ∀ order : List String, (∀ group, manifest.Defines group → group ∈ order) →
        manifest.suiteInOrder order = .ok suite := by
  obtain ⟨registry, definitions, becomes⟩ := (ends_suite manifest).of_ok loads
  refine ⟨?_, ?_, ?_⟩
  · rw [becomes.reads.satisfies_iff suite becomes.benchmarks]
    exact becomes.settled.solves becomes.resolved
  · intro groups undefined satisfies
    rw [becomes.reads.satisfies_iff { suite with groups } becomes.benchmarks] at satisfies
    apply becomes.settled.eq_of_solves becomes.resolved satisfies
    intro name absent
    exact undefined name (becomes.reads.mem_names_iff.not.mp absent)
  · intro order covers
    have sound := becomes.sound
    obtain ⟨suite', succeeds, registry', definitions', becomes'⟩ :=
      (ends_suiteInOrder manifest covers).exists_ok sound.not_exhibits
    rw [succeeds, becomes'.unique becomes]

theorem nightly_groups_unique_solution :
    ∃ suite, nightly.suite = .ok suite ∧ suite.Satisfies nightly ∧
      nightly.suiteInOrder ["weekly", "slow", "none", "quick", "core"] = .ok suite := by
  obtain ⟨suite, loads⟩ := exists_suite_nightly
  obtain ⟨satisfies, -, anyOrder⟩ := suite_groups_unique_solution loads
  refine ⟨suite, loads, satisfies, anyOrder _ ?_⟩
  change ∀ group ∈ nightly.definitions.names, _
  decide +kernel

end Manifest

end BenchSuite
