import BenchSuite.Proofs.Run.Notices

/-!
# Runs that look at nothing

Once the configuration and the suite are there, a command that writes no file looks at nothing in
its world: it ends alike in every world, and it adds the same text and the same notices to each.  So
two runs of such a command can differ only in what has been prepared for them, and that is a
configuration and a suite.
-/

namespace BenchSuite

/-- The world after a further text on the standard output and further notices. -/
def World.told (world : World) (text : String) (notices : List Notice) : World :=
  { world with printed := world.printed ++ text, notices := world.notices ++ notices }

theorem World.told_nothing (world : World) : world.told "" [] = world := by
  simp [told]

theorem World.told_told (world : World) (first second : String)
    (firstNotices secondNotices : List Notice) :
    (world.told first firstNotices).told second secondNotices =
      world.told (first ++ second) (firstNotices ++ secondNotices) := by
  simp [told, String.append_assoc]

namespace Run

variable {ε α β : Type}

/-- The computation ends alike in all worlds, and adds the same to them. -/
def IsBlind (computation : Run α) : Prop :=
  ∃ result text notices, ∀ world, computation.outcome world = (result, world.told text notices)

theorem isBlind_pure (result : α) : IsBlind (pure result) :=
  ⟨.ok result, "", [], fun world => by rw [World.told_nothing, outcome_pure]⟩

theorem isBlind_throw (failure : Failure) : IsBlind (throw failure : Run α) :=
  ⟨.error failure, "", [], fun world => by rw [World.told_nothing]; rfl⟩

theorem isBlind_notify (notice : Notice) : IsBlind (notify notice) :=
  ⟨.ok (), "", [notice], fun world => by simp [World.told, outcome_notify, World.notified]⟩

theorem isBlind_print (text : String) : IsBlind (print text) :=
  ⟨.ok (), text, [], fun world => by rw [World.told, List.append_nil]; rfl⟩

theorem isBlind_attempt (cause : ε → Failure) (computation : Except ε α) :
    IsBlind (attempt cause computation) := by
  cases computation with
  | ok result => exact isBlind_pure result
  | error error => exact isBlind_throw (cause error)

theorem IsBlind.bind {first : Run β} {next : β → Run α} (begins : IsBlind first)
    (continues : ∀ value, IsBlind (next value)) : IsBlind (first >>= next) := by
  obtain ⟨result, text, notices, ends⟩ := begins
  cases result with
  | error failure =>
      refine ⟨.error failure, text, notices, fun world => ?_⟩
      rw [outcome_bind, ends]
  | ok value =>
      obtain ⟨result', text', notices', ends'⟩ := continues value
      refine ⟨result', text ++ text', notices ++ notices', fun world => ?_⟩
      rw [outcome_bind, ends]
      exact (ends' _).trans (by rw [World.told_told])

theorem isBlind_forM {step : β → Run Unit} (list : List β)
    (each : ∀ element, IsBlind (step element)) : IsBlind (list.forM step) := by
  induction list with
  | nil => exact isBlind_pure ()
  | cons head tail ih =>
      rw [List.forM_eq_forM] at ih ⊢
      rw [List.forM_cons]
      exact (each head).bind fun _ => ih

end Run

open Run

theorem Suite.isBlind_choose (suite : Suite) (guard : NegationGuard) (choice : Choice) :
    IsBlind (suite.choose guard choice) := by
  cases choice with
  | nothing => exact isBlind_pure _
  | selections listed =>
      refine (isBlind_notify _).bind fun _ => (isBlind_attempt _ _).bind fun resolution => ?_
      exact (isBlind_forM _ fun _ => isBlind_notify _).bind fun _ => isBlind_pure _

theorem SelectRequest.isBlind_run {request : SelectRequest} (printed : request.output? = none)
    (config : Config) (suite : Suite) : IsBlind (request.run config suite) := by
  refine (suite.isBlind_choose config.guard request.choice).bind fun resolution => ?_
  have delivers : IsBlind (request.deliver (request.report resolution)) := by
    simp only [deliver, printed]
    exact isBlind_print _
  split
  · exact (isBlind_throw _).bind fun _ => delivers.bind fun _ => isBlind_notify _
  · exact delivers.bind fun _ => isBlind_notify _

theorem Command.isBlind_run {command : Command} (printed : command.output? = none)
    (config : Config) (suite : Suite) : IsBlind (command.run config suite) := by
  cases command with
  | list manifest? choice =>
      exact (suite.isBlind_choose config.guard choice).bind fun resolution => isBlind_print _
  | listGroups manifest? => exact isBlind_print _
  | select request => exact request.isBlind_run printed config suite

/-- The same configuration, but for the manifest that it names. -/
def Config.naming (config : Config) (manifest? : Option Path) : Config :=
  { config with manifest? }

/-- Which manifest the configuration names matters for finding the suite, and for nothing else. -/
theorem Command.run_naming (command : Command) (config : Config) (manifest? : Option Path)
    (suite : Suite) : command.run (config.naming manifest?) suite = command.run config suite := by
  cases command <;> rfl

namespace Arguments

variable {arguments : Arguments} {tree : FileTree} {config : Config} {suite : Suite}

theorem outcome_run_of_conflict {conflict : ArgumentsConflict}
    (configured : arguments.loadConfig tree = .ok config)
    (conflicting : arguments.conflict? config = some conflict) :
    arguments.run.outcome { tree } = (.error (.conflict conflict), { tree }) := by
  simp only [run, prepare, outcome_bind, outcome_files, configured, outcome_attempt_ok, conflicting]
  rfl

theorem outcome_run_of_unloaded {error : LoadError}
    (configured : arguments.loadConfig tree = .ok config)
    (consistent : arguments.conflict? config = none)
    (unloaded : Suite.load tree (config.manifestPath arguments.command.manifest?) = .error error) :
    arguments.run.outcome { tree } =
      (.error (.manifest (config.manifestPath arguments.command.manifest?) error),
        { tree, notices :=
          [.starting, .loading (config.manifestPath arguments.command.manifest?)] }) := by
  simp only [run, prepare, outcome_bind, outcome_files, configured, outcome_attempt_ok, consistent,
    outcome_notify, World.notified_tree, loadSuite, unloaded]
  rfl

theorem outcome_run_of_prepares (prepares : arguments.Prepares tree config suite) :
    arguments.run.outcome { tree } = (arguments.command.run config suite).outcome
      { tree, notices :=
        [.starting, .loading (config.manifestPath arguments.command.manifest?)] } := by
  rw [run, outcome_bind, outcome_prepare { tree } prepares]
  rfl

/-- The same arguments with another configuration file, or none. -/
def configuredBy (arguments : Arguments) (config? : Option Path) : Arguments :=
  { arguments with config? }

section TwoRuns

variable {tree' : FileTree} {path? path'? named? named'? : Option Path}

/-- Where the suite is looked for if the configuration names this manifest. -/
def soughtAt (arguments : Arguments) (config : Config) (named? : Option Path) : Path :=
  (config.naming named?).manifestPath arguments.command.manifest?

/-- Two runs go alike if one suite is found for both and their configurations agree on everything
but where it is.  If the arguments contradict themselves, it is not even looked for. -/
theorem run_alike (printed : arguments.command.output? = none)
    (configured : (arguments.configuredBy path?).loadConfig tree = .ok (config.naming named?))
    (configured' : (arguments.configuredBy path'?).loadConfig tree' = .ok (config.naming named'?))
    (found : (Suite.load tree (arguments.soughtAt config named?)).toOption =
      (Suite.load tree' (arguments.soughtAt config named'?)).toOption) :
    let first := (arguments.configuredBy path?).run.outcome { tree }
    let second := (arguments.configuredBy path'?).run.outcome { tree := tree' }
    (first.1.isOk = second.1.isOk ∧ first.2.printed = second.2.printed) ∧
    (arguments.soughtAt config named? = arguments.soughtAt config named'? →
      Suite.load tree (arguments.soughtAt config named?) =
        Suite.load tree' (arguments.soughtAt config named'?) →
      first.1 = second.1 ∧ first.2.notices = second.2.notices) := by
  intro first second
  cases conflicts : arguments.conflict? config with
  | some conflict =>
      have ended : first = _ := outcome_run_of_conflict configured conflicts
      have ended' : second = _ := outcome_run_of_conflict configured' conflicts
      rw [ended, ended']
      exact ⟨⟨rfl, rfl⟩, fun _ _ => ⟨rfl, rfl⟩⟩
  | none =>
      cases loaded : Suite.load tree (arguments.soughtAt config named?) <;>
        cases loaded' : Suite.load tree' (arguments.soughtAt config named'?)
      case error.error error error' =>
        have ended : first = _ := outcome_run_of_unloaded configured conflicts loaded
        have ended' : second = _ := outcome_run_of_unloaded configured' conflicts loaded'
        rw [ended, ended']
        refine ⟨⟨rfl, rfl⟩, fun samePlace same => ?_⟩
        obtain rfl := Except.error.inj same
        unfold soughtAt at samePlace
        exact ⟨congrArg (fun path => Except.error (Failure.manifest path error)) samePlace,
          congrArg (fun path => [Notice.starting, .loading path]) samePlace⟩
      case ok.ok suite suite' =>
        obtain rfl : suite = suite' := by simpa [loaded, loaded', Except.toOption] using found
        have ended : first = _ := outcome_run_of_prepares ⟨configured, conflicts, loaded⟩
        have ended' : second = _ := outcome_run_of_prepares ⟨configured', conflicts, loaded'⟩
        obtain ⟨result, text, notices, ends⟩ := Command.isBlind_run printed config suite
        simp only [configuredBy, Command.run_naming, ends] at ended ended'
        rw [ended, ended']
        refine ⟨⟨rfl, rfl⟩, fun samePlace _ => ⟨rfl, ?_⟩⟩
        unfold soughtAt at samePlace
        exact congrArg (fun path => [Notice.starting, .loading path] ++ notices) samePlace
      all_goals simp [loaded, loaded', Except.toOption] at found

/-- So the program gives the same answer.  If the suite is even found at the same place, nothing of
what is shown tells the two runs apart. -/
theorem outcome_alike (printed : arguments.command.output? = none)
    (configured : (arguments.configuredBy path?).loadConfig tree = .ok (config.naming named?))
    (configured' : (arguments.configuredBy path'?).loadConfig tree' = .ok (config.naming named'?))
    (found : (Suite.load tree (arguments.soughtAt config named?)).toOption =
      (Suite.load tree' (arguments.soughtAt config named'?)).toOption) :
    let first := (arguments.configuredBy path?).outcome tree
    let second := (arguments.configuredBy path'?).outcome tree'
    first.answer = second.answer ∧
    (arguments.soughtAt config named? = arguments.soughtAt config named'? →
      Suite.load tree (arguments.soughtAt config named?) =
        Suite.load tree' (arguments.soughtAt config named'?) →
      first.errors = second.errors) := by
  intro first second
  have alike := run_alike printed configured configured' found
  rcases ended : (arguments.configuredBy path?).run.outcome { tree } with ⟨result, after⟩
  rcases ended' : (arguments.configuredBy path'?).run.outcome { tree := tree' } with
    ⟨result', after'⟩
  simp only [ended, ended'] at alike
  obtain ⟨⟨fate, text⟩, seen⟩ := alike
  rw [show first = _ from outcome_of_run ended, show second = _ from outcome_of_run ended']
  refine ⟨by simp only [Outcome.answer, fate, text], fun samePlace same => ?_⟩
  obtain ⟨rfl, notices⟩ := seen samePlace same
  simp only [notices]
  rfl

/-- Where the command line names the manifest, it does not matter which one the configuration names,
or where the configuration is. -/
theorem outcome_alike_of_asked {asked : Path} (asks : arguments.command.manifest? = some asked)
    (printed : arguments.command.output? = none)
    (configured : (arguments.configuredBy path?).loadConfig tree = .ok (config.naming named?))
    (configured' : (arguments.configuredBy path'?).loadConfig tree' = .ok (config.naming named'?))
    (same : Suite.load tree asked = Suite.load tree' asked) :
    let first := (arguments.configuredBy path?).outcome tree
    let second := (arguments.configuredBy path'?).outcome tree'
    first.answer = second.answer ∧ first.errors = second.errors := by
  have sought : ∀ named?, arguments.soughtAt config named? = asked := by
    intro named?
    simp only [soughtAt, Config.manifestPath, asks, Option.some_or, Option.getD_some]
  have same' : Suite.load tree (arguments.soughtAt config named?) =
      Suite.load tree' (arguments.soughtAt config named'?) := by
    simpa only [sought] using same
  have alike := outcome_alike printed configured configured' (congrArg Except.toOption same')
  exact ⟨alike.1, alike.2 ((sought named?).trans (sought named'?).symm) same'⟩

end TwoRuns

end Arguments

end BenchSuite
