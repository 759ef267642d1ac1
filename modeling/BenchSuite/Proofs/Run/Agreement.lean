import BenchSuite.Proofs.CommandLine.Counterparts
import BenchSuite.Proofs.Run.Stages

/-!
# Listing and selecting agree

Up to the resolution of the choice, a run that selects does what a run that lists does.  So it fails
for the same causes, and it hands over the benchmarks that would be listed, unless there are none
and this is not accepted.
-/

namespace BenchSuite

variable {tree : FileTree} {arguments : Arguments} {manifest? : Option Path} {choice : Choice}
  {request : SelectRequest}

/-- What is left of a request when its choice has been resolved. -/
def SelectRequest.conclude (request : SelectRequest) (config : Config) (resolution : Resolution) :
    Run Unit := do
  if resolution.benchmarks.isEmpty && !request.acceptsNothing config then
    throw .nothingSelected
  request.deliver (request.report resolution)
  Run.notify (.finished resolution.benchmarks.length)

theorem SelectRequest.refuses_iff {config : Config} {resolution : Resolution} :
    (resolution.benchmarks.isEmpty && !request.acceptsNothing config) = true ↔
      resolution.benchmarks = [] ∧ request.allowsNothing = false ∧
        config.allowsNothing = false := by
  simp [acceptsNothing]

theorem SelectRequest.outcome_conclude (printed : request.output? = none) (config : Config)
    (resolution : Resolution) (world : World) :
    (request.conclude config resolution).outcome world =
      if resolution.benchmarks.isEmpty && !request.acceptsNothing config then
        (.error .nothingSelected, world)
      else
        (.ok (),
          { world with
            printed := world.printed ++ request.report resolution
            notices := world.notices ++ [.finished resolution.benchmarks.length] }) := by
  simp only [conclude, deliver, printed]
  by_cases refused : (resolution.benchmarks.isEmpty && !request.acceptsNothing config) = true
  · rw [if_pos refused, if_pos refused]
    rfl
  · rw [if_neg refused, if_neg refused]
    rfl

/-- The request is for what listing a choice shows, and prints it. -/
structure SelectRequest.GoesWith (request : SelectRequest) (manifest? : Option Path)
    (choice : Choice) : Prop where
  manifest : request.manifest? = manifest?
  choice : request.choice = choice
  printed : request.output? = none

namespace Arguments

/-- What listing and selecting have in common: a choice is resolved. -/
def resolve (arguments : Arguments) (choice : Choice) : Run (Config × Resolution) := do
  let (config, suite) ← arguments.prepare
  let resolution ← suite.choose config.guard choice
  pure (config, resolution)

theorem run_of_list (lists : arguments.command = .list manifest? choice) :
    arguments.run = (do
      let (_, resolution) ← arguments.resolve choice
      Run.print (Listing.benchmarks resolution.benchmarks)) := by
  simp only [run, resolve, lists, Command.run, bind_assoc, pure_bind]

theorem run_of_select (selects : arguments.command = .select request) :
    arguments.run = (do
      let (config, resolution) ← arguments.resolve request.choice
      request.conclude config resolution) := by
  simp only [run, resolve, selects, Command.run, SelectRequest.run, SelectRequest.conclude,
    bind_assoc, pure_bind]

theorem ends_resolve (arguments : Arguments) (choice : Choice) (tree : FileTree) :
    Run.Ends (arguments.resolve choice) { tree }
      (fun (config, resolution) after => (∃ suite, arguments.Prepares tree config suite ∧
        resolution = choice.resolution suite.catalog) ∧ World.Untouched { tree } after)
      (fun _ after => World.Untouched { tree } after) := by
  unfold resolve
  refine (arguments.ends_prepare { tree }).followed (fun _ _ => And.right) ?_
  rintro ⟨config, suite⟩ prepared ⟨prepares, untouched⟩
  refine (suite.ends_choose config.guard choice prepared).followed
    (fun _ _ refused => untouched.trans refused.2) ?_
  rintro resolution chosen ⟨-, rfl, still⟩
  exact Run.Ends.pure ⟨⟨suite, prepares, rfl⟩, untouched.trans still⟩

/-- Before a choice is resolved, nothing is read of a command but its manifest, and whether it asks
for nothing. -/
theorem resolve_congr {other : Command} (manifest : other.manifest? = arguments.command.manifest?)
    (asks : ∀ config, choosesNothing { arguments with command := other } config =
      arguments.choosesNothing config) :
    resolve { arguments with command := other } choice = arguments.resolve choice := by
  have conflicts : ∀ config, conflict? { arguments with command := other } config =
      arguments.conflict? config := by
    intro config
    simp only [conflict?, asks]
  simp only [resolve, prepare, loadConfig, conflicts, manifest]

theorem choosesNothing_congr (lists : arguments.command = .list manifest? request.choice)
    (something : request.choice ≠ .nothing) (config : Config) :
    choosesNothing { arguments with command := .select request } config =
      arguments.choosesNothing config := by
  cases chosen : request.choice with
  | nothing => exact (something chosen).elim
  | selections listed => simp [choosesNothing, lists, chosen, Choice.isNothing]

section Outcome

variable {config : Config} {resolution : Resolution} {failure : Failure} {after : World}

theorem outcome_of_list_unresolved (lists : arguments.command = .list manifest? choice)
    (fails : (arguments.resolve choice).outcome { tree } = (.error failure, after)) :
    arguments.outcome tree = ⟨1, after.printed,
      arguments.log after.notices ++ "Error: " ++ failure.message ++ "\n", after.tree⟩ := by
  apply outcome_of_error
  rw [run_of_list lists, Run.outcome_bind, fails]

theorem outcome_of_list_resolved (lists : arguments.command = .list manifest? choice)
    (resolves : (arguments.resolve choice).outcome { tree } = (.ok (config, resolution), after)) :
    arguments.outcome tree = ⟨0, after.printed ++ Listing.benchmarks resolution.benchmarks,
      arguments.log after.notices, after.tree⟩ := by
  have ended : arguments.run.outcome { tree } = (.ok (),
      { after with printed := after.printed ++ Listing.benchmarks resolution.benchmarks }) := by
    rw [run_of_list lists, Run.outcome_bind, resolves]
    rfl
  exact outcome_of_ok ended

theorem outcome_of_select_unresolved (selects : arguments.command = .select request)
    (fails : (arguments.resolve request.choice).outcome { tree } = (.error failure, after)) :
    arguments.outcome tree = ⟨1, after.printed,
      arguments.log after.notices ++ "Error: " ++ failure.message ++ "\n", after.tree⟩ := by
  apply outcome_of_error
  rw [run_of_select selects, Run.outcome_bind, fails]

theorem outcome_of_select_resolved (selects : arguments.command = .select request)
    (printed : request.output? = none)
    (resolves : (arguments.resolve request.choice).outcome { tree } =
      (.ok (config, resolution), after)) :
    arguments.outcome tree =
      if resolution.benchmarks.isEmpty && !request.acceptsNothing config then
        ⟨1, after.printed, arguments.log after.notices ++ "Error: No benchmarks selected\n",
          after.tree⟩
      else
        ⟨0, after.printed ++ request.report resolution,
          arguments.log (after.notices ++ [.finished resolution.benchmarks.length]),
          after.tree⟩ := by
  have ended : arguments.run.outcome { tree } =
      (request.conclude config resolution).outcome after := by
    rw [run_of_select selects, Run.outcome_bind, resolves]
  rw [SelectRequest.outcome_conclude printed] at ended
  split at ended
  · rename_i refused
    rw [if_pos refused, outcome_of_error ended, String.append_assoc, String.append_assoc]
    rfl
  · rename_i accepted
    rw [if_neg accepted]
    exact outcome_of_ok ended

end Outcome

/-- Where listing by the arguments fails, every request that goes with it fails alike.  Otherwise
they come upon the same resolution, with the same notices. -/
theorem outcome_agrees (arguments : Arguments) (tree : FileTree)
    (lists : arguments.command = .list manifest? choice) (something : choice ≠ .nothing) :
    ((arguments.outcome tree).exitCode ≠ 0 ∧ ∀ request : SelectRequest,
      request.GoesWith manifest? choice →
        outcome { arguments with command := .select request } tree = arguments.outcome tree) ∨
    ∃ config suite notices, arguments.Prepares tree config suite ∧
      let resolution := choice.resolution suite.catalog
      arguments.outcome tree =
        ⟨0, Listing.benchmarks resolution.benchmarks, arguments.log notices, tree⟩ ∧
      ∀ request : SelectRequest, request.GoesWith manifest? choice →
        outcome { arguments with command := .select request } tree =
          if resolution.benchmarks.isEmpty && !request.acceptsNothing config then
            ⟨1, "", arguments.log notices ++ "Error: No benchmarks selected\n", tree⟩
          else
            ⟨0, request.report resolution,
              arguments.log (notices ++ [.finished resolution.benchmarks.length]), tree⟩ := by
  have same : ∀ request : SelectRequest, request.GoesWith manifest? choice →
      resolve { arguments with command := .select request } request.choice =
        arguments.resolve choice := by
    rintro request ⟨rfl, rfl, printed⟩
    exact resolve_congr (by rw [lists]; rfl) (choosesNothing_congr lists something)
  -- Both runs go on from the end of this one part.
  cases ended : (arguments.resolve choice).outcome { tree } with
  | mk result after =>
      cases result with
      | error failure =>
          rw [outcome_of_list_unresolved lists ended]
          refine .inl ⟨Nat.one_ne_zero, fun request goes => ?_⟩
          rw [← same request goes] at ended
          exact outcome_of_select_unresolved rfl ended
      | ok resolved =>
          obtain ⟨config, resolution⟩ := resolved
          have ends := arguments.ends_resolve choice tree
          obtain ⟨⟨suite, prepares, rfl⟩, untouched⟩ := ends.of_outcome_ok ended
          refine .inr ⟨config, suite, after.notices, prepares, ?_, fun request goes => ?_⟩
          · rw [outcome_of_list_resolved lists ended, untouched.printed, untouched.tree,
              String.empty_append]
          · rw [← same request goes] at ended
            rw [outcome_of_select_resolved rfl goes.printed ended, untouched.printed,
              untouched.tree, String.empty_append]
            rfl

end Arguments

namespace CommandLine

theorem UsageError.IsFault.exitCode {error : UsageError} (fault : error.IsFault)
    (tree : FileTree) : (error.outcome tree).exitCode ≠ 0 := by
  obtain ⟨noHelp, noVersion⟩ := fault
  cases error <;> first | exact (noHelp rfl).elim | exact (noVersion rfl).elim | exact nofun

theorem Settings.Comparable.report_request {settings : Settings} (comparable : settings.Comparable)
    (format : ReportFormat) (allowed : Bool) (resolution : Resolution) :
    (settings.request format allowed).report resolution =
      (Report.ofResolution resolution []).render format := by
  have inherited : (settings.request format allowed).environment? = none := comparable.environment
  rw [SelectRequest.report, inherited]
  rfl

/-- With the same settings, listing fails and selecting fails alike, or both have come upon the same
resolution. -/
theorem Settings.Comparable.agrees {outer inner : Settings} (comparable : inner.Comparable)
    (allowed : Bool) (tree : FileTree) :
    let lists := outer.join inner (.list inner.manifest? inner.choice)
    let listed := lists.outcome tree
    let selected := fun format =>
      (outer.join inner (.select (inner.request format allowed))).outcome tree
    (listed.exitCode ≠ 0 ∧ ∀ format, selected format = listed) ∨
    ∃ config suite log finished, lists.Prepares tree config suite ∧
      let resolution := inner.choice.resolution suite.catalog
      let refused := resolution.benchmarks = [] ∧ allowed = false ∧ config.allowsNothing = false
      listed = ⟨0, Listing.benchmarks resolution.benchmarks, log, tree⟩ ∧
      (refused → ∀ format,
        selected format = ⟨1, "", log ++ "Error: No benchmarks selected\n", tree⟩) ∧
      (¬ refused → ∀ format, selected format =
        ⟨0, (Report.ofResolution resolution []).render format, finished, tree⟩) := by
  intro lists listed selected
  have goes : ∀ format, (inner.request format allowed).GoesWith inner.manifest? inner.choice :=
    fun format => ⟨rfl, rfl, comparable.output⟩
  obtain ⟨failed, same⟩ | ⟨config, suite, notices, prepares, shows, ends⟩ :=
    lists.outcome_agrees tree rfl comparable.choosesSomething
  · exact .inl ⟨failed, fun format => same _ (goes format)⟩
  · let selectedNames := (inner.choice.resolution suite.catalog).benchmarks
    refine .inr ⟨config, suite, _, lists.log (notices ++ [.finished selectedNames.length]), prepares,
      shows, fun refused format => ?_, fun accepted format => ?_⟩
    · exact (ends _ (goes format)).trans (if_pos (SelectRequest.refuses_iff.mpr refused))
    · rw [← comparable.report_request format allowed]
      exact (ends _ (goes format)).trans (if_neg (SelectRequest.refuses_iff.not.mpr accepted))

/-- Whatever files there are, listing and selecting by the same options agree, unless these ask for
no benchmarks at all.  If listing fails, selecting fails with the same report.  If listing shows
benchmarks, selecting hands over the same ones in the same order, in the plain format one a line and
in the other one as an array.  If there are none, selecting fails, unless this is accepted. -/
theorem selecting_agrees_with_listing (globals : List GlobalOption) (options : List FilterOption)
    (something : .benchmarks Choice.nothingWord ∉ options) (allowed : Bool) (tree : FileTree) :
    let listed := program (listing globals options) tree
    let selected := fun format => program (selecting format allowed globals options) tree
    (listed.exitCode ≠ 0 → ∀ format, selected format = listed) ∧
    (listed.exitCode = 0 → ∃ arguments manifest? choice config suite,
      parse (listing globals options) = .ok arguments ∧
      arguments.command = .list manifest? choice ∧ arguments.Prepares tree config suite ∧
      let resolution := choice.resolution suite.catalog
      let names := resolution.benchmarks
      let unmatched := resolution.unmatched.map Selection.render
      listed.output = Listing.benchmarks names ∧
      (names ≠ [] ∨ allowed = true ∨ config.allowsNothing = true →
        (∀ format, (selected format).exitCode = 0 ∧ (selected format).tree = tree) ∧
        (selected .plain).output = String.join (names.map (· ++ "\n")) ∧
        (selected .json).output =
          (Json.object
            [("benchmarks", .texts names), ("unmatched", .texts unmatched)]).render ++ "\n") ∧
      (names = [] → allowed = false → config.allowsNothing = false → ∀ format,
        selected format =
          ⟨1, "", listed.errors ++ "Error: No benchmarks selected\n", listed.tree⟩)) := by
  intro listed selected
  have reads := parse_listing globals options
  have ends := ends_settingsOf globals something
  cases given : settingsOf globals options with
  | error error =>
      have fault := ends.of_error given
      have fails : parse (listing globals options) = .error error := by rw [reads, given]; rfl
      have fails' : ∀ format, parse (selecting format allowed globals options) = .error error := by
        intro format
        rw [parse_selecting, given]
        rfl
      have same : listed = error.outcome tree := program_of_usageError fails tree
      refine ⟨fun _ format => (program_of_usageError (fails' format) tree).trans same.symm, ?_⟩
      intro succeeded
      rw [same] at succeeded
      exact (fault.exitCode tree succeeded).elim
  | ok settings =>
      obtain ⟨outer, inner⟩ := settings
      have comparable : inner.Comparable := ends.of_ok given
      let arguments := outer.join inner (.list inner.manifest? inner.choice)
      have parsed : parse (listing globals options) = .ok arguments := by rw [reads, given]; rfl
      have lists : listed = arguments.outcome tree := program_of_parse parsed tree
      have selects : ∀ format, selected format =
          (outer.join inner (.select (inner.request format allowed))).outcome tree := by
        intro format
        exact program_of_parse (by rw [parse_selecting, given]; rfl) tree
      obtain ⟨failed, same⟩ | ⟨config, suite, log, finished, prepares, shows, refuses, hands⟩ :=
        comparable.agrees allowed tree
      · rw [lists]
        exact ⟨fun _ format => (selects format).trans (same format),
          fun succeeded => (failed succeeded).elim⟩
      · rw [lists, shows]
        refine ⟨fun failed => (failed rfl).elim, fun _ => ?_⟩
        refine ⟨arguments, _, _, config, suite, parsed, rfl, prepares, rfl, ?_, ?_⟩
        · intro accepted
          have hands : ∀ format, selected format =
              ⟨0, (Report.ofResolution (inner.choice.resolution suite.catalog) []).render format,
                finished, tree⟩ :=
            fun format => (selects format).trans (hands (by grind) format)
          simp only [hands, true_and]
          exact ⟨fun _ => trivial, rfl, rfl⟩
        · intro empty disallowed unaccepted format
          exact (selects format).trans (refuses ⟨empty, disallowed, unaccepted⟩ format)

/-- A choice that begins with a dash is understood alike, and leaves one of two benchmarks. -/
theorem selecting_agrees_with_listing_without_b :
    let tree : FileTree := { nodes := [(["m"], .file "benchmarks: [{name: a}, {name: b}]".toUTF8)] }
    let options : List FilterOption := [.manifest "m", .benchmarks "-b", .global .quiet]
    let listed := program (listing [] options) tree
    let selected := fun format => program (selecting format true [] options) tree
    .benchmarks Choice.nothingWord ∉ options ∧ listed.exitCode = 0 ∧
      ∃ names, listed.output = Listing.benchmarks names ∧
        (selected .plain).output = String.join (names.map (· ++ "\n")) := by
  intro tree options listed selected
  have something : .benchmarks Choice.nothingWord ∉ options := by decide +kernel
  have succeeded : listed.exitCode = 0 := by decide +kernel
  obtain ⟨-, agrees⟩ := selecting_agrees_with_listing [] options something true tree
  obtain ⟨_, _, choice, _, suite, -, -, -, shows, hands, -⟩ := agrees succeeded
  exact ⟨something, succeeded, _, shows, (hands (.inr (.inl rfl))).2.1⟩

end CommandLine

end BenchSuite
