import BenchSuite.Proofs.Selection.Guarding

/-!
# What a guard has something against

A selection is unsupported if the name in its pattern is malformed, or if it excludes a whole group
by a kind of pattern that the guard watches.  A guard fails at the first unsupported selection of a
list, and where there is none it makes no difference to the resolution.  It sees an expression only
after all of it has been read.
-/

namespace BenchSuite

/-- The name in the pattern is none that its kind allows. -/
inductive Pattern.Malformed : Pattern → Prop
  | name {benchmark : String} (refused : ¬ NameRule.numericStart.Allows benchmark) :
      Malformed (.name benchmark)
  | tag {group : String} (refused : ¬ NameRule.strict.Allows group) : Malformed (.tag group)

theorem NameRule.isNone_fault?_eq_false_iff {rule : NameRule} {name : String} :
    (rule.fault? name).isNone = false ↔ ¬ rule.Allows name := by
  simp [Allows, Option.isSome_iff_ne_none]

theorem Pattern.isConcrete_eq_false_iff {pattern : Pattern} :
    pattern.isConcrete = false ↔ pattern.Malformed := by
  constructor
  · intro vague
    cases pattern with
    | name benchmark => exact .name (NameRule.isNone_fault?_eq_false_iff.mp vague)
    | tag group => exact .tag (NameRule.isNone_fault?_eq_false_iff.mp vague)
  · rintro (refused | refused)
    · exact NameRule.isNone_fault?_eq_false_iff.mpr refused
    · exact NameRule.isNone_fault?_eq_false_iff.mpr refused

namespace NegationGuard

section Unsupported

variable (guard : NegationGuard) (catalog : Catalog)

/-- The selection excludes a group of the catalog, which the guard does not want excluded by a
pattern of this kind. -/
inductive NegatesGroup : Selection → Prop
  | name {text group : String} (watched : guard.groupNames = true)
      (known : group ∈ catalog.groups.names) : NegatesGroup ⟨.exclusion, text, .name group⟩
  | tag {text group : String} (watched : guard.tags = true)
      (known : group ∈ catalog.groups.names) : NegatesGroup ⟨.exclusion, text, .tag group⟩

def Unsupported (selection : Selection) : Prop :=
  selection.pattern.Malformed ∨ guard.NegatesGroup catalog selection

end Unsupported

variable {guard : NegationGuard} {catalog : Catalog} {selection : Selection}

theorem negatesGroup_iff :
    guard.NegatesGroup catalog selection ↔
      (selection.isExclusion && guard.watches selection.pattern &&
        catalog.hasGroup selection.pattern.identifier) = true := by
  constructor
  · rintro (⟨watched, known⟩ | ⟨watched, known⟩)
    · have listed := NameMap.contains_iff_mem_names.mpr known
      simp [Selection.isExclusion, watches, Pattern.identifier, Catalog.hasGroup, watched, listed]
    · have listed := NameMap.contains_iff_mem_names.mpr known
      simp [Selection.isExclusion, watches, Pattern.identifier, Catalog.hasGroup, watched, listed]
  · obtain ⟨operator, text, pattern⟩ := selection
    intro negates
    simp only [Selection.isExclusion, Bool.and_eq_true, beq_iff_eq] at negates
    obtain ⟨⟨rfl, watched⟩, listed⟩ := negates
    have known := NameMap.contains_iff_mem_names.mp listed
    cases pattern with
    | name group => exact .name watched known
    | tag group => exact .tag watched known

/-- What a guard has against a selection: a malformed name comes before a negated group. -/
theorem refusal?_eq_some_iff {refusal : Refusal} :
    guard.refusal? catalog selection = some refusal ↔
      guard.Unsupported catalog selection ∧
        (refusal = .notConcrete ↔ selection.pattern.Malformed) := by
  unfold refusal? Unsupported
  rw [← Pattern.isConcrete_eq_false_iff, negatesGroup_iff]
  cases selection.pattern.isConcrete with
  | false => cases refusal <;> simp
  | true => cases refusal <;> simp [and_assoc]

theorem refusal?_eq_none_iff :
    guard.refusal? catalog selection = none ↔ ¬ guard.Unsupported catalog selection := by
  rw [Unsupported, ← Pattern.isConcrete_eq_false_iff, negatesGroup_iff, refusal?]
  cases selection.pattern.isConcrete <;> simp

theorem passes_iff {selections : List Selection} :
    guard.Passes catalog selections ↔
      ∀ selection ∈ selections, ¬ guard.Unsupported catalog selection :=
  forall₂_congr fun _ _ => refusal?_eq_none_iff

/-- The refused selection is the first unsupported one of the list. -/
theorem Refuses.exists_first {selections : List Selection} {error : SelectionError}
    (refuses : guard.Refuses catalog selections error) :
    ∃ before selection after refusal, selections = before ++ selection :: after ∧
      (∀ earlier ∈ before, ¬ guard.Unsupported catalog earlier) ∧
      guard.Unsupported catalog selection ∧
      (refusal = .notConcrete ↔ selection.pattern.Malformed) ∧
      error = .unsupported selection refusal := by
  induction refuses with
  | @here selection rest refusal refused =>
      obtain ⟨unsupported, reason⟩ := refusal?_eq_some_iff.mp refused
      exact ⟨[], selection, rest, refusal, rfl, by simp, unsupported, reason, rfl⟩
  | @later head rest error passed refuses ih =>
      obtain ⟨before, selection, after, refusal, rfl, supported, first⟩ := ih
      refine ⟨head :: before, selection, after, refusal, rfl, ?_, first⟩
      exact List.forall_mem_cons.mpr ⟨refusal?_eq_none_iff.mp passed, supported⟩

end NegationGuard

namespace Catalog

/-- A guarded resolution is the same as one without a guard if no selection is unsupported, and only
then; otherwise it fails, and its message shows the first unsupported selection as it is written.
An expression that cannot be read fails for that, whatever the guard has against its other parts. -/
theorem resolveGuarded_conservative (catalog : Catalog) (guard : NegationGuard) :
    (∀ selections,
      (catalog.resolveGuarded (some guard) selections = catalog.resolveGuarded none selections ↔
        ∀ selection ∈ selections, ¬ guard.Unsupported catalog selection) ∧
      (catalog.resolveGuarded (some guard) selections = catalog.resolveGuarded none selections ∨
        ∃ before selection after refusal, selections = before ++ selection :: after ∧
          (∀ earlier ∈ before, ¬ guard.Unsupported catalog earlier) ∧
          guard.Unsupported catalog selection ∧
          (refusal = .notConcrete ↔ selection.pattern.Malformed) ∧
          ∃ error, catalog.resolveGuarded (some guard) selections = .error error ∧
            error = .unsupported selection refusal ∧
            error.message =
              "Unsupported selection `" ++ selection.render ++ "`: " ++ refusal.reason)) ∧
    ∀ expression,
      (∀ error, Selection.parse expression = .error error →
        catalog.resolveText (some guard) expression = .error (.malformed error)) ∧
      ∀ selections, Selection.parse expression = .ok selections →
        catalog.resolveText (some guard) expression =
          catalog.resolveGuarded (some guard) selections := by
  refine ⟨fun selections => ?_, fun expression => ⟨fun error parsed => ?_, fun _ parsed => ?_⟩⟩
  · have ends := catalog.ends_resolveGuarded guard selections
    cases resolved : catalog.resolveGuarded (some guard) selections with
    | ok resolution =>
        obtain ⟨passes, rfl⟩ := ends.of_ok resolved
        have same : Except.ok (catalog.resolve selections) =
            catalog.resolveGuarded none selections := rfl
        exact ⟨iff_of_true same (NegationGuard.passes_iff.mp passes), .inl same⟩
    | error error =>
        have refuses := ends.of_error resolved
        have different : Except.error error ≠ catalog.resolveGuarded none selections := nofun
        have unsupported := NegationGuard.passes_iff.not.mp refuses.not_passes
        obtain ⟨before, selection, after, refusal, split, supported, first, reason, rfl⟩ :=
          refuses.exists_first
        refine ⟨iff_of_false different unsupported, .inr ?_⟩
        exact ⟨before, selection, after, refusal, split, supported, first, reason, _, rfl, rfl, rfl⟩
  · rw [resolveText, parsed]
    rfl
  · rw [resolveText, parsed]
    rfl

-- The first piece is unsupported, but the second one cannot be read.
example :
    let catalog : Catalog := ⟨["a"], NameMap.ofList [("all", NameSet.ofList ["a"])]⟩
    catalog.resolveText (some {}) "-all,<b c>" =
      .error (.malformed ⟨"b c", .notWord⟩) := by
  decide +kernel

end Catalog

end BenchSuite
