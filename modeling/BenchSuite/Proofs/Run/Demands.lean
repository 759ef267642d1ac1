import BenchSuite.Proofs.Run.Stages

/-!
# What a request demands

A request for benchmarks is met if seven demands are, and they are looked at in a fixed order.  The
structures below collect the demands up to each stage, every one of them on top of the ones before,
and a request fails with the first demand that is not met.
-/

namespace BenchSuite

variable {tree : FileTree} {arguments : Arguments} {request : SelectRequest}
  {config : Config} {suite : Suite}

namespace SelectRequest

section Demands

variable (request : SelectRequest) (arguments : Arguments) (tree : FileTree)

/-- The configuration can be read, and the arguments agree with each other and with it. -/
structure Admits (config : Config) : Prop where
  configured : arguments.loadConfig tree = .ok config
  oneVerbosity : ¬ (arguments.verbose = true ∧ arguments.quiet = true)
  choosesSomething : request.choice = .nothing → request.acceptsNothing config = true

/-- The suite that is asked for can be loaded. -/
structure Loads (config : Config) (suite : Suite) : Prop extends
    request.Admits arguments tree config where
  loaded : Suite.load tree (config.manifestPath request.manifest?) = .ok suite

/-- The guard lets every selection pass. -/
structure Selects (config : Config) (suite : Suite) : Prop extends
    request.Loads arguments tree config suite where
  passes : config.guard.Passes suite.catalog request.choice.guarded

/-- There is something to hand over, or there need not be. -/
structure Yields (config : Config) (suite : Suite) : Prop extends
    request.Selects arguments tree config suite where
  nonempty : (request.choice.resolution suite.catalog).benchmarks = [] →
    request.acceptsNothing config = true

/-- There is a place for the file that is to take the selection. -/
structure Delivers (config : Config) (suite : Suite) : Prop extends
    request.Yields arguments tree config suite where
  hasPlace : ∀ path, request.output? = some path → ∃ place, tree.placeForFile path = .ok place

/-- The failures of a request, each of them the failure of the first demand that is not met. -/
inductive Fails : Failure → Prop
  | config {error : ConfigError} (unread : arguments.loadConfig tree = .error error) :
      Fails (.config error)
  | verbosity {config : Config} (configured : arguments.loadConfig tree = .ok config)
      (both : arguments.verbose = true ∧ arguments.quiet = true) :
      Fails (.conflict .verboseAndQuiet)
  | choice {config : Config} (configured : arguments.loadConfig tree = .ok config)
      (oneVerbosity : ¬ (arguments.verbose = true ∧ arguments.quiet = true))
      (nothing : request.choice = .nothing) (refused : request.acceptsNothing config = false) :
      Fails (.conflict .nothingChosen)
  | manifest {config : Config} {error : LoadError} (admits : request.Admits arguments tree config)
      (unloaded : Suite.load tree (config.manifestPath request.manifest?) = .error error) :
      Fails (.manifest (config.manifestPath request.manifest?) error)
  | guard {config : Config} {suite : Suite} {error : SelectionError}
      (loads : request.Loads arguments tree config suite)
      (refuses : config.guard.Refuses suite.catalog request.choice.guarded error) :
      Fails (.selection error)
  | emptiness {config : Config} {suite : Suite}
      (selects : request.Selects arguments tree config suite)
      (empty : (request.choice.resolution suite.catalog).benchmarks = [])
      (refused : request.acceptsNothing config = false) :
      Fails .nothingSelected
  | output {config : Config} {suite : Suite} {path : Path} {error : FileError}
      (yields : request.Yields arguments tree config suite)
      (asked : request.output? = some path)
      (unplaced : tree.placeForFile path = .error error) :
      Fails (.output path error)

end Demands

theorem Delivers.not_fails {failure : Failure}
    (delivers : request.Delivers arguments tree config suite) :
    ¬ request.Fails arguments tree failure := by
  intro fails
  cases fails <;> grind [Admits, Loads, Selects, Yields, Delivers, NegationGuard.Refuses.not_passes]

theorem Loads.determines {config' : Config} {suite' : Suite}
    (loads : request.Loads arguments tree config suite)
    (configured : arguments.loadConfig tree = .ok config')
    (loaded : Suite.load tree (config'.manifestPath request.manifest?) = .ok suite') :
    config' = config ∧ suite' = suite := by
  obtain rfl := Except.ok.inj (configured.symm.trans loads.configured)
  exact ⟨rfl, Except.ok.inj (loaded.symm.trans loads.loaded)⟩

theorem Fails.unique {failure other : Failure} (fails : request.Fails arguments tree failure)
    (fails' : request.Fails arguments tree other) : failure = other := by
  -- Of two different failures, the later one presupposes the demand that the earlier one denies.
  cases fails <;> cases fails' <;>
    grind [Admits, Loads, Selects, Yields, NegationGuard.Refuses.not_passes,
      NegationGuard.Refuses.unique]

end SelectRequest

namespace Arguments

theorem conflict?_eq_none_iff : arguments.conflict? config = none ↔
    ¬ (arguments.verbose = true ∧ arguments.quiet = true) ∧
      ¬ arguments.choosesNothing config = true := by
  unfold conflict?
  by_cases both : arguments.verbose = true ∧ arguments.quiet = true
  · simp [both]
  · rw [if_neg (by simpa using both)]
    simpa using fun _ => not_and.mp both

variable (selects : arguments.command = .select request)

include selects

theorem choosesNothing_iff : arguments.choosesNothing config = true ↔
    request.choice = .nothing ∧ request.acceptsNothing config = false := by
  unfold choosesNothing
  rw [selects]
  cases chosen : request.choice <;> simp [chosen, Choice.isNothing, SelectRequest.acceptsNothing]

theorem admits_of_conflict?_eq_none (configured : arguments.loadConfig tree = .ok config)
    (consistent : arguments.conflict? config = none) : request.Admits arguments tree config := by
  obtain ⟨oneVerbosity, choosesSomething⟩ := conflict?_eq_none_iff.mp consistent
  rw [choosesNothing_iff selects] at choosesSomething
  exact ⟨configured, oneVerbosity, by simpa using choosesSomething⟩

/-- Of the two conflicts, the one about what is shown comes first. -/
theorem fails_of_conflict?_eq_some {conflict : ArgumentsConflict}
    (configured : arguments.loadConfig tree = .ok config)
    (conflicting : arguments.conflict? config = some conflict) :
    request.Fails arguments tree (.conflict conflict) := by
  unfold conflict? at conflicting
  split at conflicting
  · rename_i both
    cases conflicting
    exact .verbosity configured (by simpa using both)
  · rename_i oneVerbosity
    split at conflicting
    · rename_i choosesNothing
      cases conflicting
      obtain ⟨nothing, refused⟩ := (choosesNothing_iff selects).mp choosesNothing
      exact .choice configured (by simpa using oneVerbosity) nothing refused
    · cases conflicting

theorem manifest?_eq : arguments.command.manifest? = request.manifest? := by
  rw [selects]
  rfl

theorem loads_of_prepares (prepares : arguments.Prepares tree config suite) :
    request.Loads arguments tree config suite where
  toAdmits := admits_of_conflict?_eq_none selects prepares.configured prepares.consistent
  loaded := manifest?_eq selects ▸ prepares.loaded

theorem fails_of_unprepared {failure : Failure} (unprepared : arguments.Unprepared tree failure) :
    request.Fails arguments tree failure := by
  cases unprepared with
  | config unread => exact .config unread
  | conflict configured conflicting =>
      exact fails_of_conflict?_eq_some selects configured conflicting
  | manifest configured consistent unloaded =>
      rw [manifest?_eq selects] at unloaded ⊢
      exact .manifest (admits_of_conflict?_eq_none selects configured consistent) unloaded

end Arguments

namespace SelectRequest

/-- What a request hands over if it is met. -/
def delivery (request : SelectRequest) (suite : Suite) : String :=
  request.report (request.choice.resolution suite.catalog)

theorem Loads.ends_run {world : World} (loads : request.Loads arguments tree config suite)
    (same : world.tree = tree) :
    Run.Ends (request.run config suite) world
      (fun _ after => request.Delivers arguments tree config suite ∧
        request.HandsOver (request.delivery suite) world after)
      (fun failure after => request.Fails arguments tree failure ∧ world.Untouched after) := by
  subst same
  unfold SelectRequest.run
  refine (suite.ends_choose config.guard request.choice world).followed ?_ ?_
  · rintro failure after ⟨⟨error, refuses, rfl⟩, untouched⟩
    exact ⟨.guard loads refuses, untouched⟩
  · rintro resolution chosen ⟨passes, rfl, untouched⟩
    have selects : request.Selects arguments world.tree config suite := ⟨loads, passes⟩
    split
    · rename_i refused
      simp only [Bool.and_eq_true, List.isEmpty_iff, Bool.not_eq_true'] at refused
      exact Run.Ends.throw_bind ⟨.emptiness selects refused.1 refused.2, untouched⟩
    · rename_i accepted
      have yields : request.Yields arguments world.tree config suite :=
        ⟨selects, by simpa using accepted⟩
      refine (request.ends_deliver (request.delivery suite) chosen).followed ?_ ?_
      · rintro failure after ⟨⟨path, error, asked, unwritten, rfl⟩, rfl⟩
        rw [untouched.tree] at unwritten
        exact ⟨.output yields asked (FileTree.write_eq_error_iff.mp unwritten), untouched⟩
      · intro _ delivered hands
        refine Run.Ends.notify fun after finished => ?_
        have handsOver := hands.of_untouched untouched finished
        exact ⟨⟨yields, fun _ => handsOver.hasPlace⟩, handsOver⟩

end SelectRequest

/-- A run for a request meets all of its demands, or it fails with the first one that is not met. -/
theorem Arguments.ends_select (selects : arguments.command = .select request) :
    Run.Ends arguments.run { tree }
      (fun _ after => ∃ config suite, request.Delivers arguments tree config suite ∧
        request.HandsOver (request.delivery suite) { tree } after)
      (fun failure after => request.Fails arguments tree failure ∧
        World.Untouched { tree } after) := by
  unfold run
  refine (arguments.ends_prepare { tree }).followed ?_ ?_
  · rintro failure after ⟨unprepared, untouched⟩
    exact ⟨fails_of_unprepared selects unprepared, untouched⟩
  · rintro ⟨config, suite⟩ prepared ⟨prepares, untouched⟩
    have loads := loads_of_prepares selects prepares
    simp only [selects, Command.run]
    refine (loads.ends_run untouched.tree).mono ?_ ?_
    · rintro _ after ⟨delivers, hands⟩
      exact ⟨config, suite, delivers, hands.of_untouched untouched (.refl after)⟩
    · rintro failure after ⟨fails, still⟩
      exact ⟨fails, untouched.trans still⟩

/-- The failure is all that can be seen of the run, below the notices it has given. -/
def Arguments.Reports (arguments : Arguments) (tree : FileTree) (failure : Failure)
    (outcome : Outcome) : Prop :=
  ∃ notices, outcome =
    ⟨1, "", arguments.log notices ++ "Error: " ++ failure.message ++ "\n", tree⟩

theorem Arguments.outcome_of_select (tree : FileTree)
    (selects : arguments.command = .select request) :
    ((arguments.outcome tree).exitCode = 0 ∧
      ∃ config suite, request.Delivers arguments tree config suite ∧
        request.HandsOver (request.delivery suite) { tree } (arguments.outcome tree).world) ∨
    ∃ failure, request.Fails arguments tree failure ∧
      arguments.Reports tree failure (arguments.outcome tree) := by
  obtain ⟨after, delivered, ended⟩ | ⟨failure, after, failed, ended⟩ :=
    outcome_of_ends (ends_select selects)
  · obtain ⟨config, suite, delivers, hands⟩ := delivered
    rw [ended]
    refine .inl ⟨rfl, config, suite, delivers, ?_⟩
    exact hands.of_untouched (.refl _) ⟨rfl, rfl⟩
  · obtain ⟨fails, untouched⟩ := failed
    refine .inr ⟨failure, fails, after.notices, ?_⟩
    rw [ended, untouched.tree, untouched.printed]

section Answers

variable (request : SelectRequest) (arguments : Arguments) (tree : FileTree)

/-- What the program owes to a request. -/
structure SelectRequest.Answered (outcome : Outcome) : Prop where
  /-- It succeeds if and only if every demand is met. -/
  succeeds_iff :
    outcome.exitCode = 0 ↔ ∃ config suite, request.Delivers arguments tree config suite
  /-- What it then hands over is what the choice selects in the suite. -/
  delivers : ∀ config suite, request.Delivers arguments tree config suite →
    request.HandsOver (request.delivery suite) { tree } outcome.world
  /-- Otherwise it fails with some demand, -/
  fails : outcome.exitCode ≠ 0 → ∃ failure, request.Fails arguments tree failure
  /-- and the failure that it reports is the one of the first demand that is not met. -/
  reports : ∀ failure, request.Fails arguments tree failure →
    arguments.Reports tree failure outcome
  /-- It never hands an empty selection over unless that is accepted. -/
  nonempty : ∀ config suite, arguments.loadConfig tree = .ok config →
    Suite.load tree (config.manifestPath request.manifest?) = .ok suite →
    request.acceptsNothing config = false → outcome.exitCode = 0 →
    (request.choice.resolution suite.catalog).benchmarks ≠ []
  /-- It never fails for emptiness if something is selected. -/
  emptiness : ∀ config suite, arguments.loadConfig tree = .ok config →
    Suite.load tree (config.manifestPath request.manifest?) = .ok suite →
    (request.choice.resolution suite.catalog).benchmarks ≠ [] →
    ¬ request.Fails arguments tree .nothingSelected ∧
      ¬ request.Fails arguments tree (.conflict .nothingChosen)
  /-- It fails if the suite cannot be loaded, even where nothing is chosen and that is accepted. -/
  unloaded : ∀ config error, request.Admits arguments tree config → request.choice = .nothing →
    Suite.load tree (config.manifestPath request.manifest?) = .error error →
    arguments.Reports tree (.manifest (config.manifestPath request.manifest?) error) outcome

end Answers

namespace SelectRequest

theorem not_fails_for_emptiness (configured : arguments.loadConfig tree = .ok config)
    (loaded : Suite.load tree (config.manifestPath request.manifest?) = .ok suite)
    (selected : (request.choice.resolution suite.catalog).benchmarks ≠ []) :
    ¬ request.Fails arguments tree .nothingSelected ∧
      ¬ request.Fails arguments tree (.conflict .nothingChosen) := by
  constructor
  · intro fails
    cases fails with
    | emptiness selects empty refused =>
        obtain ⟨rfl, rfl⟩ := selects.toLoads.determines configured loaded
        exact selected empty
  · intro fails
    cases fails with
    | choice configured oneVerbosity nothing refused =>
        rw [nothing] at selected
        exact selected rfl

/-- The program answers every request that is asked of it, whatever files there are. -/
theorem answered_of_parse {words : List String} (parsed : CommandLine.parse words = .ok arguments)
    (selects : arguments.command = .select request) :
    request.Answered arguments tree (program words tree) := by
  rw [program_of_parse parsed]
  obtain ⟨succeeded, config, suite, delivers, hands⟩ | ⟨failure, fails, reported⟩ :=
    arguments.outcome_of_select tree selects
  · refine ⟨iff_of_true succeeded ⟨config, suite, delivers⟩, ?_, fun failed => ?_, ?_, ?_, ?_, ?_⟩
    · intro config' suite' delivers'
      obtain ⟨rfl, rfl⟩ := delivers.toLoads.determines delivers'.configured delivers'.loaded
      exact hands
    · exact (failed succeeded).elim
    · exact fun failure fails => (delivers.not_fails fails).elim
    · intro config' suite' configured loaded refused _ empty
      obtain ⟨rfl, rfl⟩ := delivers.toLoads.determines configured loaded
      simp [delivers.nonempty empty] at refused
    · exact fun config suite => not_fails_for_emptiness
    · exact fun config error admits _ unloaded =>
        (delivers.not_fails (.manifest admits unloaded)).elim
  · have reports : ∀ other, request.Fails arguments tree other →
        arguments.Reports tree other (arguments.outcome tree) := by
      intro other otherFails
      rwa [otherFails.unique fails]
    have failed : (arguments.outcome tree).exitCode ≠ 0 := by
      obtain ⟨notices, outcome⟩ := reported
      simp [outcome]
    have undelivered : ¬ ∃ config suite, request.Delivers arguments tree config suite :=
      fun ⟨_, _, delivers⟩ => delivers.not_fails fails
    refine ⟨iff_of_false failed undelivered, ?_, fun _ => ⟨failure, fails⟩, reports, ?_, ?_, ?_⟩
    · exact fun config suite delivers => (undelivered ⟨config, suite, delivers⟩).elim
    · exact fun config suite _ _ _ succeeded => (failed succeeded).elim
    · exact fun config suite => not_fails_for_emptiness
    · exact fun config error admits _ unloaded => reports _ (.manifest admits unloaded)

/-- Asking for nothing does not make up for a manifest that is not there. -/
theorem answered_without_manifest :
    let request : SelectRequest := { choice := .nothing, allowsNothing := true }
    let arguments : Arguments := { command := .select request }
    let words := ["select", "-b", "<NONE>", "--allow-no-benchmarks"]
    let missing : LoadError := .unreadable Config.standardManifest .notFound
    CommandLine.parse words = .ok arguments ∧
      request.Answered arguments { nodes := [] } (program words { nodes := [] }) ∧
      arguments.Reports { nodes := [] } (.manifest Config.standardManifest missing)
        (program words { nodes := [] }) := by
  intro request arguments words missing
  have parsed : CommandLine.parse words = .ok arguments := by decide +kernel
  have answered : request.Answered arguments { nodes := [] } (program words { nodes := [] }) :=
    answered_of_parse parsed rfl
  have admits : request.Admits arguments { nodes := [] } {} := ⟨rfl, by decide, fun _ => rfl⟩
  have unloaded : Suite.load { nodes := [] } Config.standardManifest = .error missing := by
    rfl
  exact ⟨parsed, answered, answered.unloaded {} missing admits rfl unloaded⟩

end SelectRequest

end BenchSuite
