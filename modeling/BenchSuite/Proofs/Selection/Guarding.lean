import BenchSuite.Proofs.FallibleComputation
import BenchSuite.Selection.NegationGuard

/-!
# Passing the guard

A guard looks at each selection on its own.  It lets a list pass if it has nothing against any
selection in it, and otherwise it refuses the first selection that it has something against.
-/

namespace BenchSuite

namespace NegationGuard

variable (guard : NegationGuard) (catalog : Catalog)

def Passes (selections : List Selection) : Prop :=
  ∀ selection ∈ selections, guard.refusal? catalog selection = none

/-- The error is about the first selection that the guard refuses. -/
inductive Refuses : List Selection → SelectionError → Prop
  | here {selection : Selection} {rest : List Selection} {refusal : Refusal}
      (refused : guard.refusal? catalog selection = some refusal) :
      Refuses (selection :: rest) (.unsupported selection refusal)
  | later {selection : Selection} {rest : List Selection} {error : SelectionError}
      (passed : guard.refusal? catalog selection = none) (refuses : Refuses rest error) :
      Refuses (selection :: rest) error

variable {guard catalog}

theorem Refuses.unique {selections : List Selection} {error other : SelectionError}
    (refuses : guard.Refuses catalog selections error)
    (refuses' : guard.Refuses catalog selections other) : error = other := by
  induction refuses with
  | here refused =>
      cases refuses' with
      | here refused' => rw [Option.some.inj (refused.symm.trans refused')]
      | later passed' => simp [refused] at passed'
  | later passed refuses ih =>
      cases refuses' with
      | here refused' => simp [passed] at refused'
      | later passed' refuses' => exact ih refuses'

theorem Refuses.not_passes {selections : List Selection} {error : SelectionError}
    (refuses : guard.Refuses catalog selections error) : ¬ guard.Passes catalog selections := by
  intro passes
  induction refuses with
  | here refused => simpa [refused] using passes _ List.mem_cons_self
  | later passed refuses ih => exact ih (List.forall_mem_cons.mp passes).2

theorem ends_check (guard : NegationGuard) (catalog : Catalog) (selections : List Selection) :
    Ends (guard.check catalog selections) (fun _ => guard.Passes catalog selections)
      (guard.Refuses catalog selections) := by
  unfold check
  induction selections with
  | nil => exact List.forall_mem_nil _
  | cons selection rest ih =>
      rw [List.forM_eq_forM, List.forM_cons]
      cases looked : guard.refusal? catalog selection with
      | some refusal => exact Refuses.here looked
      | none =>
          refine ih.mono (fun _ passes => ?_) fun _ => Refuses.later looked
          exact List.forall_mem_cons.mpr ⟨looked, passes⟩

end NegationGuard

namespace Catalog

variable {catalog : Catalog} {guard : Option NegationGuard} {expression : String}

theorem resolveText_of_parse {selections : List Selection}
    (parsed : Selection.parse expression = .ok selections) :
    catalog.resolveText guard expression = catalog.resolveGuarded guard selections := by
  rw [resolveText, parsed]
  rfl

theorem resolveText_of_malformed {error : NameError}
    (malformed : Selection.parse expression = .error error) :
    catalog.resolveText guard expression = .error (.malformed error) := by
  rw [resolveText, malformed]
  rfl

end Catalog

/-- A guarded resolution is the resolution of a list that passes. -/
theorem Catalog.ends_resolveGuarded (catalog : Catalog) (guard : NegationGuard)
    (selections : List Selection) :
    Ends (catalog.resolveGuarded (some guard) selections)
      (fun resolution => guard.Passes catalog selections ∧ resolution = catalog.resolve selections)
      (guard.Refuses catalog selections) :=
  (NegationGuard.ends_check guard catalog selections).bind fun _ passes => ⟨passes, rfl⟩

theorem Catalog.resolveGuarded_some_eq_ok_iff {catalog : Catalog} {guard : NegationGuard}
    {selections : List Selection} {resolution : Resolution} :
    catalog.resolveGuarded (some guard) selections = .ok resolution ↔
      guard.Passes catalog selections ∧ resolution = catalog.resolve selections := by
  have ends := catalog.ends_resolveGuarded guard selections
  constructor
  · exact ends.of_ok
  · rintro ⟨passes, rfl⟩
    obtain ⟨resolution, resolved, -, rfl⟩ :=
      ends.exists_ok fun error refuses => refuses.not_passes passes
    exact resolved

/-- Resolving succeeds exactly if the guard, if there is one, lets the whole list pass. -/
theorem Catalog.resolveGuarded_eq_ok_iff {catalog : Catalog} {guard : Option NegationGuard}
    {selections : List Selection} {resolution : Resolution} :
    catalog.resolveGuarded guard selections = .ok resolution ↔
      (∀ watchful ∈ guard, watchful.Passes catalog selections) ∧
        resolution = catalog.resolve selections := by
  cases guard with
  | none =>
      change Except.ok (catalog.resolve selections) = _ ↔ _
      simp [eq_comm]
  | some watchful => simp [resolveGuarded_some_eq_ok_iff]

end BenchSuite
