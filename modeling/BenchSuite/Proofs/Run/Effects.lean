import BenchSuite.Program
import BenchSuite.Proofs.FallibleComputation

/-!
# What runs do to their world

A run that fails still leaves a world behind.  So a run is described, like any computation that may
fail, by two conditions, and both of them are about the result and the world together.  The rules
below compose such descriptions along the steps that runs are made of.
-/

namespace BenchSuite

/-- Nothing has been handed over yet: the files and what has been printed are the same. -/
structure World.Untouched (world after : World) : Prop where
  tree : after.tree = world.tree
  printed : after.printed = world.printed

namespace World.Untouched

variable {world between after : World}

theorem refl (world : World) : world.Untouched world :=
  ⟨rfl, rfl⟩

theorem trans (first : world.Untouched between) (second : between.Untouched after) :
    world.Untouched after :=
  ⟨second.tree.trans first.tree, second.printed.trans first.printed⟩

end World.Untouched

namespace Run

variable {ε α β : Type} {world : World}
  {good : α → World → Prop} {justified : Failure → World → Prop}

/-- The second part of a run begins in the world that the first one leaves, unless that fails. -/
theorem outcome_bind (first : Run β) (next : β → Run α) (world : World) :
    (first >>= next).outcome world =
      match first.outcome world with
      | (.ok value, between) => (next value).outcome between
      | (.error failure, between) => (.error failure, between) := by
  simp only [outcome, ExceptT.run_bind, StateT.run_bind]
  rcases (first.run.run world) with ⟨_ | _, between⟩ <;> rfl

/-- Begun in a world, the run either succeeds with a good result and leaves a good world, or it
fails for a cause that the world it leaves justifies. -/
def Ends (computation : Run α) (world : World) (good : α → World → Prop)
    (justified : Failure → World → Prop) : Prop :=
  match computation.outcome world with
  | (.ok result, after) => good result after
  | (.error failure, after) => justified failure after

namespace Ends

theorem pure {result : α} (holds : good result world) :
    Ends (Pure.pure result) world good justified :=
  holds

theorem throw_bind {failure : Failure} {next : β → Run α} (holds : justified failure world) :
    Ends (MonadExcept.throw failure >>= next) world good justified :=
  holds

theorem bind {middle : β → World → Prop} {first : Run β} {next : β → Run α}
    (begins : Ends first world middle justified)
    (continues : ∀ value between, middle value between →
      Ends (next value) between good justified) :
    Ends (first >>= next) world good justified := by
  unfold Ends at begins ⊢
  rw [outcome_bind]
  split at begins
  · rename_i value between ended
    exact continues value between begins
  · exact begins

theorem mono {good' : α → World → Prop} {justified' : Failure → World → Prop}
    {computation : Run α} (ends : Ends computation world good justified)
    (results : ∀ result after, good result after → good' result after)
    (failures : ∀ failure after, justified failure after → justified' failure after) :
    Ends computation world good' justified' := by
  unfold Ends at ends ⊢
  split at ends
  · exact results _ _ ends
  · exact failures _ _ ends

theorem of_outcome_ok {computation : Run α} {result : α} {after : World}
    (ends : Ends computation world good justified)
    (succeeds : computation.outcome world = (.ok result, after)) : good result after := by
  unfold Ends at ends
  rwa [succeeds] at ends

theorem of_outcome_error {computation : Run α} {failure : Failure} {after : World}
    (ends : Ends computation world good justified)
    (fails : computation.outcome world = (.error failure, after)) : justified failure after := by
  unfold Ends at ends
  rwa [fails] at ends

/-- A run none of whose failures can be justified succeeds. -/
theorem exists_outcome_ok {computation : Run α} (ends : Ends computation world good justified)
    (sound : ∀ failure after, ¬ justified failure after) :
    ∃ result after, computation.outcome world = (.ok result, after) ∧ good result after := by
  rcases ended : computation.outcome world with ⟨failure | result, after⟩
  · exact (sound failure after (ends.of_outcome_error ended)).elim
  · exact ⟨result, after, rfl, ends.of_outcome_ok ended⟩

/-- The failures of the first part of a run are failures of the whole run. -/
theorem followed {middle : β → World → Prop} {failing : Failure → World → Prop} {first : Run β}
    {next : β → Run α} (begins : Ends first world middle failing)
    (fails : ∀ failure after, failing failure after → justified failure after)
    (continues : ∀ value between, middle value between →
      Ends (next value) between good justified) :
    Ends (first >>= next) world good justified :=
  (begins.mono (fun _ _ => id) fails).bind continues

theorem attempt {cause : ε → Failure} {computation : Except ε α}
    (succeeds : ∀ result, computation = .ok result → good result world)
    (fails : ∀ error, computation = .error error → justified (cause error) world) :
    Ends (Run.attempt cause computation) world good justified := by
  cases computation with
  | ok result => exact succeeds result rfl
  | error error => exact fails error rfl

theorem attempt_bind {cause : ε → Failure} {computation : Except ε β} {next : β → Run α}
    (continues : ∀ value, computation = .ok value → Ends (next value) world good justified)
    (fails : ∀ error, computation = .error error → justified (cause error) world) :
    Ends (Run.attempt cause computation >>= next) world good justified := by
  cases computation with
  | ok value => exact continues value rfl
  | error error => exact fails error rfl

theorem files_bind {next : FileTree → Run α}
    (continues : Ends (next world.tree) world good justified) :
    Ends (Run.files >>= next) world good justified :=
  continues

theorem notify_bind {notice : Notice} {next : Unit → Run α}
    (continues : ∀ between, world.Untouched between → Ends (next ()) between good justified) :
    Ends (Run.notify notice >>= next) world good justified :=
  continues _ ⟨rfl, rfl⟩

theorem notify {notice : Notice} {good : Unit → World → Prop}
    (holds : ∀ after, world.Untouched after → good () after) :
    Ends (Run.notify notice) world good justified :=
  holds _ ⟨rfl, rfl⟩

theorem print {text : String} {good : Unit → World → Prop}
    (holds : good () { world with printed := world.printed ++ text }) :
    Ends (Run.print text) world good justified :=
  holds

theorem save {path : Path} {text : String} {good : Unit → World → Prop}
    (made : ∀ tree, world.tree.write path text = .ok tree → good () { world with tree })
    (refused : ∀ error, world.tree.write path text = .error error →
      justified (.output path error) world) :
    Ends (Run.save path text) world good justified :=
  files_bind (attempt_bind made refused)

/-- What every step of a loop keeps, the whole loop keeps. -/
theorem forM {kept : World → Prop} {step : β → Run Unit} {list : List β} (starts : kept world)
    (each : ∀ element between, kept between →
      Ends (step element) between (fun _ => kept) justified) :
    Ends (list.forM step) world (fun _ => kept) justified := by
  induction list generalizing world with
  | nil => exact starts
  | cons head tail ih =>
      rw [List.forM_eq_forM, List.forM_cons]
      exact (each head world starts).bind fun _ _ holds => ih holds

end Ends

-- Runs are described by these rules alone from here on, and never evaluated.
attribute [irreducible] Ends

end Run

/-- The part of the world that can be seen after the program has ended. -/
def Outcome.world (outcome : Outcome) : World :=
  { tree := outcome.tree, printed := outcome.output }

/-- What the program answers: its exit code, and what it prints. -/
def Outcome.answer (outcome : Outcome) : Nat × String :=
  (outcome.exitCode, outcome.output)

/-- What is shown below the notices of a run. -/
def Run.closing : Except Failure Unit → String
  | .ok () => ""
  | .error failure => "Error: " ++ failure.message ++ "\n"

section Outcome

variable {arguments : Arguments} {tree : FileTree}

theorem Arguments.outcome_of_ok {after : World}
    (succeeds : arguments.run.outcome { tree } = (.ok (), after)) :
    arguments.outcome tree =
      ⟨0, after.printed, arguments.log after.notices, after.tree⟩ := by
  unfold outcome
  rw [succeeds]

theorem Arguments.outcome_of_error {failure : Failure} {after : World}
    (fails : arguments.run.outcome { tree } = (.error failure, after)) :
    arguments.outcome tree =
      ⟨1, after.printed, arguments.log after.notices ++ "Error: " ++ failure.message ++ "\n",
        after.tree⟩ := by
  unfold outcome
  rw [fails]

theorem Arguments.outcome_of_run {result : Except Failure Unit} {after : World}
    (ended : arguments.run.outcome { tree } = (result, after)) :
    arguments.outcome tree =
      ⟨if result.isOk then 0 else 1, after.printed,
        arguments.log after.notices ++ Run.closing result, after.tree⟩ := by
  rcases result with failure | ⟨⟩
  · rw [outcome_of_error ended, Run.closing]
    simp only [String.append_assoc]
    rfl
  · rw [outcome_of_ok ended, Run.closing, String.append_empty]
    rfl

/-- What can be seen of the program is the end of its run. -/
theorem Arguments.outcome_of_ends
    {good : Unit → World → Prop} {justified : Failure → World → Prop}
    (ends : Run.Ends arguments.run { tree } good justified) :
    (∃ after, good () after ∧
      arguments.outcome tree = ⟨0, after.printed, arguments.log after.notices, after.tree⟩) ∨
    ∃ failure after, justified failure after ∧
      arguments.outcome tree = ⟨1, after.printed,
        arguments.log after.notices ++ "Error: " ++ failure.message ++ "\n", after.tree⟩ := by
  unfold Run.Ends at ends
  split at ends
  · rename_i after ended
    exact .inl ⟨after, ends, outcome_of_ok ended⟩
  · rename_i failure after ended
    exact .inr ⟨failure, after, ends, outcome_of_error ended⟩

end Outcome

theorem program_of_parse {words : List String} {arguments : Arguments}
    (parsed : CommandLine.parse words = .ok arguments) (tree : FileTree) :
    program words tree = arguments.outcome tree := by
  unfold program
  rw [parsed]

theorem program_of_usageError {words : List String} {error : CommandLine.UsageError}
    (fails : CommandLine.parse words = .error error) (tree : FileTree) :
    program words tree = error.outcome tree := by
  unfold program
  rw [fails]

end BenchSuite
