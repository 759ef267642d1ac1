import BenchSuite.Proofs.Run.Demands

/-!
# What a run leaves behind

A run that fails has changed nothing, and one that succeeds has changed no more than the file that
it was asked to write.  What is in this file is what would have been printed otherwise, even if the
run has read the configuration or the manifest from the same place.
-/

namespace BenchSuite

variable {tree : FileTree} {arguments : Arguments} {request : SelectRequest}
  {config : Config} {suite : Suite} {world after : World}

/-- Nothing has changed but the file that a path, if there is one, leads to. -/
def FileTree.ChangesOnlyAt (tree after : FileTree) (path? : Option Path) : Prop :=
  ∀ place, after.node? place ≠ tree.node? place →
    ∃ path, path? = some path ∧ tree.placeForFile path = .ok place

theorem SelectRequest.HandsOver.changesOnlyAt {text : String}
    (hands : request.HandsOver text world after) :
    world.tree.ChangesOnlyAt after.tree request.output? := by
  intro place changed
  cases asked : request.output? with
  | none => exact (changed (by rw [(hands.of_no_file asked).2])).elim
  | some path =>
      refine ⟨path, rfl, ?_⟩
      by_contra elsewhere
      exact changed (FileTree.node?_of_write (hands.of_file asked).2 elsewhere)

/-- Listing changes no file. -/
theorem Command.ends_run_of_listing (command : Command) (config : Config) (suite : Suite)
    (world : World) (listing : ∀ request, command ≠ .select request) :
    Run.Ends (command.run config suite) world (fun _ after => after.tree = world.tree)
      (fun _ => world.Untouched) := by
  cases command with
  | list manifest? choice =>
      refine (suite.ends_choose config.guard choice world).followed (fun _ _ => And.right) ?_
      rintro resolution chosen ⟨-, -, untouched⟩
      exact Run.Ends.print untouched.tree
  | listGroups manifest? => exact Run.Ends.print rfl
  | select request => exact (listing request rfl).elim

theorem Arguments.ends_run (arguments : Arguments) (tree : FileTree) :
    Run.Ends arguments.run { tree }
      (fun _ after => tree.ChangesOnlyAt after.tree arguments.command.output?)
      (fun _ after => World.Untouched { tree } after) := by
  by_cases selects : ∃ request, arguments.command = .select request
  · obtain ⟨request, selects⟩ := selects
    refine (ends_select selects).mono ?_ fun _ _ => And.right
    rintro _ after ⟨config, suite, -, hands⟩
    rw [selects]
    exact hands.changesOnlyAt
  · unfold run
    refine (arguments.ends_prepare { tree }).followed (fun _ _ => And.right) ?_
    rintro ⟨config, suite⟩ prepared ⟨-, untouched⟩
    have listing := arguments.command.ends_run_of_listing config suite prepared
      (by simpa using selects)
    refine listing.mono (fun _ after same => ?_) fun _ _ still => untouched.trans still
    intro place changed
    exact (changed (by rw [same, untouched.tree])).elim

/-- The same request, but for the text to be printed. -/
def SelectRequest.withoutOutput (request : SelectRequest) : SelectRequest :=
  { request with output? := none }

def Command.withoutOutput : Command → Command
  | .select request => .select request.withoutOutput
  | listing => listing

def Arguments.withoutOutput (arguments : Arguments) : Arguments :=
  { arguments with command := arguments.command.withoutOutput }

theorem SelectRequest.Delivers.withoutOutput
    (delivers : request.Delivers arguments tree config suite) :
    request.withoutOutput.Delivers arguments.withoutOutput tree config suite where
  configured := delivers.configured
  oneVerbosity := delivers.oneVerbosity
  choosesSomething := delivers.choosesSomething
  loaded := delivers.loaded
  passes := delivers.passes
  nonempty := delivers.nonempty
  hasPlace := nofun

theorem Command.exists_request {command : Command} {path : Path}
    (asked : command.output? = some path) :
    ∃ request, command = .select request ∧ request.output? = some path := by
  cases command with
  | select request => exact ⟨request, rfl, asked⟩
  | list manifest? choice => cases asked
  | listGroups manifest? => cases asked

/-- A file that takes the selection takes what would have been printed. -/
theorem Arguments.holds_printed {path : Path} (selects : arguments.command = .select request)
    (asked : request.output? = some path) (succeeded : (arguments.outcome tree).exitCode = 0) :
    (arguments.outcome tree).output = "" ∧
      (arguments.withoutOutput.outcome tree).exitCode = 0 ∧
      (arguments.outcome tree).tree.Holds path (arguments.withoutOutput.outcome tree).output := by
  obtain ⟨-, config, suite, delivers, hands⟩ | ⟨failure, -, notices, failed⟩ :=
    outcome_of_select tree selects
  · have selects' : arguments.withoutOutput.command = .select request.withoutOutput := by
      rw [withoutOutput, selects]
      rfl
    obtain ⟨succeeded', config', suite', delivers', hands'⟩ | ⟨failure, fails, -⟩ :=
      outcome_of_select tree selects'
    · obtain ⟨rfl, rfl⟩ := delivers.toLoads.determines delivers'.configured delivers'.loaded
      obtain ⟨silent, wrote⟩ := hands.of_file asked
      obtain ⟨printed, -⟩ := hands'.of_no_file rfl
      have same : (arguments.withoutOutput.outcome tree).output = request.delivery suite' :=
        printed.trans String.empty_append
      rw [same]
      exact ⟨silent, succeeded', FileTree.holds_of_write wrote⟩
    · exact (delivers.withoutOutput.not_fails fails).elim
  · simp [failed] at succeeded

theorem Arguments.outcome_contained (arguments : Arguments) (tree : FileTree) :
    ((arguments.outcome tree).exitCode ≠ 0 →
      (arguments.outcome tree).output = "" ∧ (arguments.outcome tree).tree = tree) ∧
    ((arguments.outcome tree).exitCode = 0 →
      tree.ChangesOnlyAt (arguments.outcome tree).tree arguments.command.output?) := by
  obtain ⟨after, changes, ended⟩ | ⟨failure, after, untouched, ended⟩ :=
    outcome_of_ends (arguments.ends_run tree)
  · rw [ended]
    exact ⟨fun failed => (failed rfl).elim, fun _ => changes⟩
  · rw [ended]
    exact ⟨fun _ => ⟨untouched.printed, untouched.tree⟩, nofun⟩

/-- Whatever it is asked to do, and whatever files there are, the program changes nothing if it
fails, and nothing but the file that is to take the selection if it succeeds.  That file then holds
exactly what would have been printed without it, and nothing is printed. -/
theorem program_contained (words : List String) (tree : FileTree) :
    ((program words tree).exitCode ≠ 0 →
      (program words tree).output = "" ∧ (program words tree).tree = tree) ∧
    ((program words tree).exitCode = 0 → ∀ place,
      (program words tree).tree.node? place ≠ tree.node? place →
        ∃ arguments path, CommandLine.parse words = .ok arguments ∧
          arguments.command.output? = some path ∧ tree.placeForFile path = .ok place) ∧
    ∀ arguments path, CommandLine.parse words = .ok arguments →
      arguments.command.output? = some path → (program words tree).exitCode = 0 →
        (program words tree).output = "" ∧
        (arguments.withoutOutput.outcome tree).exitCode = 0 ∧
        (program words tree).tree.Holds path (arguments.withoutOutput.outcome tree).output := by
  cases parsed : CommandLine.parse words with
  | error error =>
      rw [program_of_usageError parsed]
      refine ⟨?_, ?_, fun _ _ parsed' => ?_⟩
      · cases error <;> simp [CommandLine.UsageError.outcome]
      · cases error <;> simp [CommandLine.UsageError.outcome]
      · cases parsed'
  | ok arguments =>
      rw [program_of_parse parsed]
      obtain ⟨fails, succeeds⟩ := arguments.outcome_contained tree
      refine ⟨fails, fun succeeded place changed => ?_, ?_⟩
      · obtain ⟨path, asked, placed⟩ := succeeds succeeded place changed
        exact ⟨arguments, path, rfl, asked, placed⟩
      · rintro _ path ⟨⟩ asked succeeded
        obtain ⟨request, selects, asked⟩ := Command.exists_request asked
        exact Arguments.holds_printed selects asked succeeded

-- The manifest that the run reads gives way to the selection.
example :
    let tree : FileTree := { nodes := [(["m"], .file "benchmarks: [{name: a}]".toUTF8)] }
    (program ["select", "--benchmarks", "a", "--manifest", "m", "--output", "m"] tree).tree =
      { nodes := [(["m"], .file "a\n".toUTF8)] } := by
  decide +kernel

end BenchSuite
