import BenchSuite.Proofs.Run.Agreement
import BenchSuite.Proofs.Run.Demands

/-!
# The notices of a run

A request that is met gives its notices in one order: that it starts, which manifest it loads, what
it selects, one warning for every selection that means nothing, and that it has finished.  They are
given whether or not they are shown.
-/

namespace BenchSuite

variable {arguments : Arguments} {request : SelectRequest} {tree : FileTree}
  {config : Config} {suite : Suite}

/-- The world after further notices. -/
def World.notified (world : World) (notices : List Notice) : World :=
  { world with notices := world.notices ++ notices }

namespace World

@[simp]
theorem notified_nil (world : World) : world.notified [] = world := by
  simp [notified]

@[simp]
theorem notified_notified (world : World) (first second : List Notice) :
    (world.notified first).notified second = world.notified (first ++ second) := by
  simp [notified]

@[simp]
theorem notified_tree (world : World) (notices : List Notice) :
    (world.notified notices).tree = world.tree :=
  rfl

end World

namespace Run

theorem outcome_pure {α : Type} (result : α) (world : World) :
    (pure result : Run α).outcome world = (.ok result, world) :=
  rfl

theorem outcome_notify (notice : Notice) (world : World) :
    (notify notice).outcome world = (.ok (), world.notified [notice]) :=
  rfl

theorem outcome_files (world : World) : files.outcome world = (.ok world.tree, world) :=
  rfl

theorem outcome_attempt_ok {ε α : Type} (cause : ε → Failure) (result : α) (world : World) :
    (attempt cause (.ok result)).outcome world = (.ok result, world) :=
  rfl

theorem outcome_forM_notify {β : Type} (give : β → Notice) (list : List β) (world : World) :
    (list.forM fun element => notify (give element)).outcome world =
      (.ok (), world.notified (list.map give)) := by
  induction list generalizing world with
  | nil => simp [outcome_pure]
  | cons head tail ih =>
      rw [List.forM_eq_forM] at ih ⊢
      rw [List.forM_cons, outcome_bind, outcome_notify]
      simp [ih]

theorem outcome_loadSuite {path : Path} (loaded : Suite.load tree path = .ok suite)
    (world : World) :
    (loadSuite tree path).outcome world = (.ok suite, world.notified [.loading path]) := by
  rw [loadSuite, outcome_bind, outcome_notify, loaded]
  rfl

end Run

/-- The notices that are given while a choice is resolved in a catalog. -/
def Choice.notices (catalog : Catalog) : Choice → List Notice
  | .nothing => []
  | .selections listed => .selecting listed :: (catalog.resolve listed).unmatched.map .unmatched

theorem Suite.outcome_choose {guard : NegationGuard} {choice : Choice}
    (passes : guard.Passes suite.catalog choice.guarded) (world : World) :
    (suite.choose guard choice).outcome world =
      (.ok (choice.resolution suite.catalog), world.notified (choice.notices suite.catalog)) := by
  cases choice with
  | nothing => exact (Run.outcome_pure _ _).trans (by simp [Choice.notices, Choice.resolution])
  | selections listed =>
      have resolved : suite.catalog.resolveGuarded (some guard) listed =
          .ok (suite.catalog.resolve listed) :=
        Catalog.resolveGuarded_some_eq_ok_iff.mpr ⟨passes, rfl⟩
      simp only [choose, resolved, Run.outcome_bind, Run.outcome_notify, Run.outcome_attempt_ok,
        Run.outcome_forM_notify, Run.outcome_pure, World.notified_notified]
      rfl

theorem Arguments.outcome_prepare (world : World)
    (prepares : arguments.Prepares world.tree config suite) :
    arguments.prepare.outcome world = (.ok (config, suite), world.notified
      [.starting, .loading (config.manifestPath arguments.command.manifest?)]) := by
  obtain ⟨configured, consistent, loaded⟩ := prepares
  simp only [prepare, Run.outcome_bind, Run.outcome_files, configured, Run.outcome_attempt_ok,
    consistent, Run.outcome_notify, World.notified_tree, Run.outcome_loadSuite loaded,
    Run.outcome_pure, World.notified_notified]
  rfl

namespace SelectRequest

theorem conclude_of_accepted {resolution : Resolution}
    (accepted : resolution.benchmarks = [] → request.acceptsNothing config = true) :
    request.conclude config resolution = (do
      request.deliver (request.report resolution)
      Run.notify (.finished resolution.benchmarks.length)) := by
  have passes : ¬ (resolution.benchmarks.isEmpty && !request.acceptsNothing config) = true := by
    simpa using accepted
  rw [conclude, if_neg passes]

theorem exists_outcome_deliver (text : String) (world : World)
    (hasPlace : ∀ path, request.output? = some path →
      ∃ place, world.tree.placeForFile path = .ok place) :
    ∃ after, (request.deliver text).outcome world = (.ok (), after) ∧
      request.HandsOver text world after ∧ after.notices = world.notices := by
  cases asked : request.output? with
  | none =>
      refine ⟨{ world with printed := world.printed ++ text }, ?_, ?_, rfl⟩
      · simp only [deliver, asked]
        rfl
      · simp only [HandsOver, asked, and_self]
  | some path =>
      obtain ⟨place, placed⟩ := hasPlace path asked
      obtain ⟨tree, wrote⟩ : ∃ tree, world.tree.write path text = .ok tree :=
        ⟨_, by rw [FileTree.write, placed]; rfl⟩
      refine ⟨{ world with tree }, ?_, ?_, rfl⟩
      · simp only [deliver, asked, Run.save, Run.outcome_bind, Run.outcome_files, wrote,
          Run.outcome_attempt_ok]
        rfl
      · simp only [HandsOver, asked, wrote, and_self]

/-- All notices of a request that is met. -/
def notices (request : SelectRequest) (config : Config) (suite : Suite) : List Notice :=
  [.starting, .loading (config.manifestPath request.manifest?)] ++
    request.choice.notices suite.catalog ++
    [.finished (request.choice.resolution suite.catalog).benchmarks.length]

theorem Delivers.prepares (delivers : request.Delivers arguments tree config suite)
    (selects : arguments.command = .select request) : arguments.Prepares tree config suite where
  configured := delivers.configured
  consistent := by
    refine Arguments.conflict?_eq_none_iff.mpr ⟨delivers.oneVerbosity, ?_⟩
    rw [Arguments.choosesNothing_iff selects]
    rintro ⟨nothing, refused⟩
    simp [delivers.choosesSomething nothing] at refused
  loaded := Arguments.manifest?_eq selects ▸ delivers.loaded

theorem Delivers.exists_outcome (delivers : request.Delivers arguments tree config suite)
    (selects : arguments.command = .select request) :
    ∃ after, arguments.run.outcome { tree } = (.ok (), after) ∧
      request.HandsOver (request.delivery suite) { tree } after ∧
      after.notices = request.notices config suite := by
  let resolved : World := World.notified { tree }
    ([.starting, .loading (config.manifestPath request.manifest?)] ++
      request.choice.notices suite.catalog)
  obtain ⟨after, delivered, hands, kept⟩ :=
    exists_outcome_deliver (request.delivery suite) resolved delivers.hasPlace
  have resolves : (arguments.resolve request.choice).outcome { tree } =
      (.ok (config, request.choice.resolution suite.catalog), resolved) := by
    have prepared := Arguments.outcome_prepare { tree } (delivers.prepares selects)
    simp only [Arguments.resolve, Run.outcome_bind, prepared, Suite.outcome_choose delivers.passes,
      Run.outcome_pure, World.notified_notified, Arguments.manifest?_eq selects]
    rfl
  refine ⟨after.notified [.finished (request.choice.resolution suite.catalog).benchmarks.length],
    ?_, hands.of_untouched ⟨rfl, rfl⟩ ⟨rfl, rfl⟩, ?_⟩
  · rw [Arguments.run_of_select selects, Run.outcome_bind, resolves]
    simp only [conclude_of_accepted delivers.nonempty, Run.outcome_bind]
    rw [← delivery, delivered]
    rfl
  · rw [World.notified, kept]
    rfl

end SelectRequest

end BenchSuite
