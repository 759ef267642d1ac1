import BenchSuite.Proofs.Files.Writing
import BenchSuite.Proofs.Run.Effects
import BenchSuite.Proofs.Selection.Guarding

/-!
# The stages of a run

Each stage of a run is described on its own: what it yields if it succeeds, and which failures it
can end with.  Nothing but the last stage, the handing over, touches the files or the standard
output.
-/

namespace BenchSuite

variable {world after : World}

section Preparation

variable (arguments : Arguments) (tree : FileTree)

/-- What has to hold for a configuration and a suite to be prepared. -/
structure Arguments.Prepares (config : Config) (suite : Suite) : Prop where
  configured : arguments.loadConfig tree = .ok config
  consistent : arguments.conflict? config = none
  loaded : Suite.load tree (config.manifestPath arguments.command.manifest?) = .ok suite

/-- Why nothing is prepared, in the order in which it is looked at. -/
inductive Arguments.Unprepared : Failure → Prop
  | config {error : ConfigError} (unread : arguments.loadConfig tree = .error error) :
      Unprepared (.config error)
  | conflict {config : Config} {conflict : ArgumentsConflict}
      (configured : arguments.loadConfig tree = .ok config)
      (conflicting : arguments.conflict? config = some conflict) :
      Unprepared (.conflict conflict)
  | manifest {config : Config} {error : LoadError}
      (configured : arguments.loadConfig tree = .ok config)
      (consistent : arguments.conflict? config = none)
      (unloaded :
        Suite.load tree (config.manifestPath arguments.command.manifest?) = .error error) :
      Unprepared (.manifest (config.manifestPath arguments.command.manifest?) error)

theorem Run.ends_loadSuite (tree : FileTree) (path : Path) :
    Ends (loadSuite tree path) world
      (fun suite after => Suite.load tree path = .ok suite ∧ world.Untouched after)
      (fun failure after => (∃ error, Suite.load tree path = .error error ∧
        failure = .manifest path error) ∧ world.Untouched after) := by
  unfold loadSuite
  refine Ends.notify_bind fun between untouched => Ends.attempt ?_ ?_
  · exact fun suite loaded => ⟨loaded, untouched⟩
  · exact fun error unloaded => ⟨⟨error, unloaded, rfl⟩, untouched⟩

theorem Arguments.ends_prepare (world : World) :
    Run.Ends arguments.prepare world
      (fun (config, suite) after =>
        arguments.Prepares world.tree config suite ∧ world.Untouched after)
      (fun failure after => arguments.Unprepared world.tree failure ∧ world.Untouched after) := by
  unfold prepare
  refine Run.Ends.files_bind (Run.Ends.attempt_bind ?_ ?_)
  · intro config configured
    cases consistent : arguments.conflict? config with
    | some conflict =>
        exact Run.Ends.throw_bind ⟨.conflict configured consistent, .refl world⟩
    | none =>
        refine Run.Ends.notify_bind fun begun untouched => Run.Ends.files_bind ?_
        rw [untouched.tree]
        refine (Run.ends_loadSuite world.tree _).followed ?_ ?_
        · rintro failure after ⟨⟨error, unloaded, rfl⟩, still⟩
          exact ⟨.manifest configured consistent unloaded, untouched.trans still⟩
        · rintro suite after ⟨loaded, still⟩
          exact Run.Ends.pure ⟨⟨configured, consistent, loaded⟩, untouched.trans still⟩
  · exact fun error unread => ⟨.config unread, .refl world⟩

end Preparation

section Choosing

/-- The selections that a guard looks at; there are none if nothing is chosen. -/
def Choice.guarded : Choice → List Selection
  | .nothing => []
  | .selections listed => listed

/-- What a choice selects in a catalog. -/
def Choice.resolution (catalog : Catalog) : Choice → Resolution
  | .nothing => {}
  | .selections listed => catalog.resolve listed

theorem Suite.ends_choose (suite : Suite) (guard : NegationGuard) (choice : Choice)
    (world : World) :
    Run.Ends (suite.choose guard choice) world
      (fun resolution after => guard.Passes suite.catalog choice.guarded ∧
        resolution = choice.resolution suite.catalog ∧ world.Untouched after)
      (fun failure after => (∃ error, guard.Refuses suite.catalog choice.guarded error ∧
        failure = .selection error) ∧ world.Untouched after) := by
  unfold choose
  cases choice with
  | nothing => exact Run.Ends.pure ⟨List.forall_mem_nil _, rfl, .refl world⟩
  | selections selections =>
      have resolves := suite.catalog.ends_resolveGuarded guard selections
      refine Run.Ends.notify_bind fun begun untouched => Run.Ends.attempt_bind ?_ ?_
      · intro resolution resolved
        obtain ⟨passes, rfl⟩ := resolves.of_ok resolved
        have warns : Run.Ends
            ((suite.catalog.resolve selections).unmatched.forM fun selection =>
              Run.notify (.unmatched selection)) begun (fun _ => begun.Untouched)
            fun _ _ => False :=
          Run.Ends.forM (.refl begun) fun _ _ kept =>
            Run.Ends.notify fun _ still => kept.trans still
        refine warns.followed (fun _ _ => False.elim) fun _ warned still => ?_
        exact Run.Ends.pure ⟨passes, rfl, untouched.trans still⟩
      · exact fun error refused => ⟨⟨error, resolves.of_error refused, rfl⟩, untouched⟩

end Choosing

namespace SelectRequest

variable (request : SelectRequest)

/-- The text has been handed over, on the standard output or in a file. -/
def HandsOver (text : String) (world after : World) : Prop :=
  match request.output? with
  | none => after.printed = world.printed ++ text ∧ after.tree = world.tree
  | some path => after.printed = world.printed ∧ world.tree.write path text = .ok after.tree

variable {request}

theorem HandsOver.of_untouched {text : String} {before between : World}
    (hands : request.HandsOver text before between) (begun : world.Untouched before)
    (finished : between.Untouched after) : request.HandsOver text world after := by
  unfold HandsOver at hands ⊢
  rw [finished.tree, finished.printed, ← begun.tree, ← begun.printed]
  exact hands

theorem HandsOver.of_file {text : String} {path : Path} (hands : request.HandsOver text world after)
    (asked : request.output? = some path) :
    after.printed = world.printed ∧ world.tree.write path text = .ok after.tree := by
  unfold HandsOver at hands
  rwa [asked] at hands

theorem HandsOver.of_no_file {text : String} (hands : request.HandsOver text world after)
    (asked : request.output? = none) :
    after.printed = world.printed ++ text ∧ after.tree = world.tree := by
  unfold HandsOver at hands
  rwa [asked] at hands

theorem HandsOver.hasPlace {text : String} {path : Path}
    (hands : request.HandsOver text world after) (asked : request.output? = some path) :
    ∃ place, world.tree.placeForFile path = .ok place := by
  obtain ⟨-, wrote⟩ := hands.of_file asked
  obtain ⟨place, placed, -⟩ := bind_eq_ok_iff.mp wrote
  exact ⟨place, placed⟩

theorem ends_deliver (request : SelectRequest) (text : String) (world : World) :
    Run.Ends (request.deliver text) world (fun _ => request.HandsOver text world)
      (fun failure after => (∃ path error, request.output? = some path ∧
        world.tree.write path text = .error error ∧ failure = .output path error) ∧
        after = world) := by
  unfold deliver HandsOver
  cases request.output? with
  | none => exact Run.Ends.print ⟨rfl, rfl⟩
  | some path =>
      refine Run.Ends.save ?_ ?_
      · exact fun tree wrote => ⟨rfl, wrote⟩
      · exact fun error failed => ⟨⟨path, error, rfl, failed, rfl⟩, rfl⟩

end SelectRequest

end BenchSuite
