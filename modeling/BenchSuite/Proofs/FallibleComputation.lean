import Mathlib.Data.List.Induction

/-!
# Computations that may fail

A computation that may fail is described by two conditions at once: one that its result satisfies
if it succeeds, and one that its error satisfies if it fails.  Such descriptions compose: those of
the steps of a computation give that of the whole, and an invariant of one step of a fallible fold
gives that of the whole fold.
-/

namespace BenchSuite

variable {ε δ α β : Type}

/-- The computation either succeeds with a good result or fails with an error that is justified. -/
def Ends (computation : Except ε α) (good : α → Prop) (justified : ε → Prop) : Prop :=
  match computation with
  | .ok result => good result
  | .error error => justified error

theorem ok_bind (value : β) (next : β → Except ε α) : Except.ok value >>= next = next value :=
  rfl

theorem bind_eq_ok_iff {first : Except ε β} {next : β → Except ε α} {result : α} :
    first >>= next = .ok result ↔ ∃ value, first = .ok value ∧ next value = .ok result := by
  cases first with
  | ok value =>
      change next value = .ok result ↔ _
      simp
  | error error =>
      change Except.error error = Except.ok result ↔ _
      simp

/-- Handling the elements of a list succeeds exactly if each of them alone can be handled. -/
theorem exists_mapM_eq_ok_iff {step : β → Except ε α} {list : List β} :
    (∃ results, list.mapM step = .ok results) ↔
      ∀ element ∈ list, ∃ result, step element = .ok result := by
  induction list with
  | nil => exact iff_of_true ⟨[], rfl⟩ (List.forall_mem_nil _)
  | cons head tail ih =>
      simp only [List.mapM_cons, bind_eq_ok_iff, List.forall_mem_cons, ← ih]
      constructor
      · rintro ⟨-, result, handled, results, handledTail, -⟩
        exact ⟨⟨result, handled⟩, results, handledTail⟩
      · rintro ⟨⟨result, handled⟩, results, handledTail⟩
        exact ⟨result :: results, result, handled, results, handledTail, rfl⟩

theorem filterMap_of_mapM_eq_ok {step : β → Except ε α} {list : List β} {results : List α}
    (succeeds : list.mapM step = .ok results) :
    list.filterMap (fun element => (step element).toOption) = results := by
  induction list generalizing results with
  | nil =>
      cases succeeds
      rfl
  | cons head tail ih =>
      rw [List.mapM_cons] at succeeds
      obtain ⟨result, handled, rest⟩ := bind_eq_ok_iff.mp succeeds
      obtain ⟨tailResults, handledTail, last⟩ := bind_eq_ok_iff.mp rest
      cases last
      have found : (step head).toOption = some result := by
        rw [handled]
        rfl
      rw [List.filterMap_cons, found, ih handledTail]

/-- If handling an element goes along with a change of it, so does handling a list. -/
theorem mapM_map_of_mapM_eq_ok {change : β → δ} {use : α → α} {step : β → Except ε α}
    {step' : δ → Except ε α} {list : List β} {results : List α}
    (commutes : ∀ element result, step element = .ok result →
      step' (change element) = .ok (use result))
    (succeeds : list.mapM step = .ok results) :
    (list.map change).mapM step' = .ok (results.map use) := by
  induction list generalizing results with
  | nil =>
      cases succeeds
      rfl
  | cons head tail ih =>
      rw [List.mapM_cons] at succeeds
      obtain ⟨result, handled, rest⟩ := bind_eq_ok_iff.mp succeeds
      obtain ⟨tailResults, handledTail, last⟩ := bind_eq_ok_iff.mp rest
      cases last
      rw [List.map_cons, List.mapM_cons, commutes head result handled, ih handledTail]
      rfl

/-- A computation that can be evaluated is seen to succeed. -/
theorem exists_eq_ok {computation : Except ε α} (succeeds : computation.isOk = true) :
    ∃ result, computation = .ok result := by
  cases computation with
  | ok result => exact ⟨result, rfl⟩
  | error error => cases succeeds

/-- What is made of the result can be evaluated together with the computation. -/
theorem eq_of_map_eq_ok {computation : Except ε α} {result : α} (use : α → β) {value : β}
    (succeeds : computation = .ok result) (evaluates : use <$> computation = .ok value) :
    use result = value := by
  rw [succeeds] at evaluates
  exact Except.ok.inj evaluates

namespace Ends

variable {good : α → Prop} {justified : ε → Prop}

theorem pure {result : α} (holds : good result) :
    Ends (Pure.pure result : Except ε α) good justified :=
  holds

theorem of_ok {computation : Except ε α} {result : α} (ends : Ends computation good justified)
    (succeeds : computation = .ok result) : good result := by
  subst succeeds
  exact ends

theorem of_error {computation : Except ε α} {error : ε} (ends : Ends computation good justified)
    (fails : computation = .error error) : justified error := by
  subst fails
  exact ends

/-- A computation none of whose errors can be justified succeeds. -/
theorem exists_ok {computation : Except ε α} (ends : Ends computation good justified)
    (sound : ∀ error, ¬ justified error) : ∃ result, computation = .ok result ∧ good result := by
  cases computation with
  | ok result => exact ⟨result, rfl, ends⟩
  | error error => exact (sound error ends).elim

theorem mono {good' : α → Prop} {justified' : ε → Prop} {computation : Except ε α}
    (ends : Ends computation good justified) (results : ∀ result, good result → good' result)
    (errors : ∀ error, justified error → justified' error) :
    Ends computation good' justified' := by
  cases computation with
  | ok result => exact results result ends
  | error error => exact errors error ends

theorem bind {middle : β → Prop} {first : Except ε β} {next : β → Except ε α}
    (begins : Ends first middle justified)
    (continues : ∀ value, middle value → Ends (next value) good justified) :
    Ends (first >>= next) good justified := by
  cases first with
  | ok value => exact continues value begins
  | error error => exact begins

theorem mapError {cause : δ → ε} {computation : Except δ α}
    (ends : Ends computation good (fun error => justified (cause error))) :
    Ends (computation.mapError cause) good justified := by
  cases computation with
  | ok result => exact ends
  | error error => exact ends

/-- What every step of a fold keeps, as long as the steps before it have kept it, holds of the
results after all of its elements. -/
theorem foldlM {motive : List β → α → Prop} {step : α → β → Except ε α} {list : List β}
    {initial : α} (starts : motive [] initial)
    (advances : ∀ done next rest state, list = done ++ next :: rest → motive done state →
      Ends (step state next) (motive (done ++ [next])) justified) :
    Ends (list.foldlM step initial) (motive list) justified := by
  induction list using List.reverseRecOn with
  | nil => exact starts
  | append_singleton list last ih =>
      rw [List.foldlM_append]
      have before : Ends (list.foldlM step initial) (motive list) justified := by
        apply ih
        intro done next rest state split
        exact advances done next (rest ++ [last]) state (by simp [split])
      refine before.bind fun state holds => ?_
      simpa using advances list last [] state rfl holds

/-- Handling the elements of a list one after the other yields a good result for each, or fails at
the first element that is refused. -/
theorem mapM {good : β → α → Prop} {bad : β → ε → Prop} {step : β → Except ε α} {list : List β}
    (each : ∀ element ∈ list, Ends (step element) (good element) (bad element)) :
    Ends (list.mapM step) (List.Forall₂ good list) fun error =>
      ∃ before element after, list = before ++ element :: after ∧
        (∀ earlier ∈ before, ∃ result, good earlier result) ∧ bad element error := by
  induction list with
  | nil => exact .nil
  | cons head tail ih =>
      have eachTail := ih fun element member => each element (List.mem_cons_of_mem head member)
      rw [List.mapM_cons]
      cases handled : step head with
      | error error =>
          refine ⟨[], head, tail, rfl, by simp, ?_⟩
          exact (each head List.mem_cons_self).of_error handled
      | ok result =>
          have goodHead := (each head List.mem_cons_self).of_ok handled
          change Ends (tail.mapM step >>= fun results => Pure.pure (result :: results)) _ _
          refine Ends.bind (eachTail.mono (fun _ good => good) ?_) ?_
          · rintro error ⟨before, element, after, rfl, goodBefore, bad⟩
            refine ⟨head :: before, element, after, rfl, ?_, bad⟩
            exact List.forall_mem_cons.mpr ⟨⟨result, goodHead⟩, goodBefore⟩
          · exact fun results goodTail => .cons goodHead goodTail

end Ends

end BenchSuite
