import BenchSuite.Proofs.Run.Notices

/-!
# Verbosity

How much is shown makes no difference to what a run does.  Two runs that are to show different
things give the same notices, end alike and hand over the same, and they differ only in which of the
notices appear on the standard error.  A quiet run leaves out the status lines and the warnings, but
the selections that it would warn of are in the report all the same.
-/

namespace BenchSuite

namespace Notice

/-- The notices, one a line. -/
def lines (notices : List Notice) : String :=
  String.join (notices.map (·.render ++ "\n"))

def isStatusLine : Notice → Bool
  | .starting | .finished _ => true
  | .loading _ | .selecting _ | .unmatched _ => false

/-- The selection that a warning is about. -/
def warned? : Notice → Option Selection
  | .unmatched selection => some selection
  | .starting | .loading _ | .selecting _ | .finished _ => none

/-- A quiet run leaves the notice out. -/
def isSuppressed (notice : Notice) : Bool :=
  notice.isStatusLine || notice.warned?.isSome

theorem render_unmatched (selection : Selection) : (unmatched selection).render =
    "Warning: no benchmark named " ++ Text.quoted selection.render :=
  rfl

theorem isShown_standard : isShown false false = isSuppressed := by
  funext notice
  cases notice <;> rfl

theorem isShown_quiet : isShown false true = fun _ => false := by
  funext notice
  cases notice <;> rfl

end Notice

/-- The selections that the notices warn of. -/
def warnedOf (notices : List Notice) : List Selection :=
  notices.filterMap Notice.warned?

namespace Arguments

variable {arguments : Arguments} {verbose quiet : Bool}

/-- The same arguments with other settings of what is shown. -/
def showing (arguments : Arguments) (verbose quiet : Bool) : Arguments :=
  { arguments with verbose, quiet }

/-- The arguments do not ask both to show details and to show nothing. -/
def OneVerbosity (arguments : Arguments) : Prop :=
  ¬ (arguments.verbose = true ∧ arguments.quiet = true)

instance (arguments : Arguments) : Decidable arguments.OneVerbosity :=
  inferInstanceAs (Decidable (¬ _))

theorem conflict?_eq (one : arguments.OneVerbosity) (config : Config) :
    arguments.conflict? config =
      if arguments.choosesNothing config then some .nothingChosen else none := by
  rw [conflict?, if_neg (by simpa [OneVerbosity] using one)]

theorem log_showing_standard (arguments : Arguments) (notices : List Notice) :
    (arguments.showing false false).log notices =
      Notice.lines (notices.filter Notice.isSuppressed) := by
  simp only [log, showing, Notice.isShown_standard, Notice.lines]

theorem log_showing_quiet (arguments : Arguments) (notices : List Notice) :
    (arguments.showing false true).log notices = "" := by
  have nothing : notices.filter (Notice.isShown false true) = [] :=
    List.filter_eq_nil_iff.mpr (by simp [Notice.isShown_quiet])
  simp only [log, showing, nothing]
  rfl

/-- The settings are looked at where they contradict each other and nowhere else. -/
theorem run_showing (one : arguments.OneVerbosity)
    (one' : (arguments.showing verbose quiet).OneVerbosity) :
    (arguments.showing verbose quiet).run = arguments.run := by
  have conflicts : (arguments.showing verbose quiet).conflict? = arguments.conflict? := by
    funext config
    rw [conflict?_eq one, conflict?_eq one']
    rfl
  simp only [run, prepare, conflicts]
  rfl

/-- The run ends alike under all settings and gives the same notices, of which those are shown that
the settings ask for. -/
theorem exists_outcome_showing (one : arguments.OneVerbosity) (tree : FileTree) :
    ∃ code printed notices ending after,
      (∀ verbose quiet, (arguments.showing verbose quiet).OneVerbosity →
        (arguments.showing verbose quiet).outcome tree =
          ⟨code, printed, (arguments.showing verbose quiet).log notices ++ ending, after⟩) ∧
      ∀ request, arguments.command = .select request → code = 0 → ∃ config suite,
        notices = request.notices config suite ∧
          request.HandsOver (request.delivery suite) { tree } { tree := after, printed } := by
  rcases ended : arguments.run.outcome { tree } with ⟨result, after⟩
  refine ⟨if result.isOk then 0 else 1, after.printed, after.notices, Run.closing result,
    after.tree, fun verbose quiet one' => ?_, fun request selects succeeded => ?_⟩
  · rw [← run_showing one one'] at ended
    exact outcome_of_run ended
  · rcases result with failure | ⟨⟩
    · cases succeeded
    · obtain ⟨config, suite, delivers, -⟩ := (ends_select selects).of_outcome_ok ended
      obtain ⟨after', ended', hands, gives⟩ := delivers.exists_outcome selects
      obtain rfl : after = after' := (Prod.mk.inj (ended.symm.trans ended')).2
      exact ⟨config, suite, gives, hands.of_untouched (.refl _) ⟨rfl, rfl⟩⟩

end Arguments

/-- A request warns of the selections that its report lists as unmatched. -/
theorem SelectRequest.warnedOf_notices (request : SelectRequest) (config : Config) (suite : Suite) :
    warnedOf (request.notices config suite) =
      (request.choice.resolution suite.catalog).unmatched := by
  unfold notices
  cases request.choice with
  | nothing => rfl
  | selections listed =>
      simp [warnedOf, Choice.notices, Choice.resolution, Notice.warned?, List.filterMap_cons,
        List.filterMap_map, Function.comp_def]

/-- Two command lines that ask for the same, but for what is to be shown, have the same exit code,
print the same and leave the same files, unless one of them contradicts itself.  The settings choose
among the same notices which ones are shown, and being quiet suppresses the status lines and the
warnings and nothing else.  A report in JSON lists the unmatched selections in both cases, and they
are those that the warnings are about. -/
theorem program_showing {words words' : List String} {arguments : Arguments} {verbose quiet : Bool}
    (parsed : CommandLine.parse words = .ok arguments)
    (parsed' : CommandLine.parse words' = .ok (arguments.showing verbose quiet))
    (one : arguments.OneVerbosity) (one' : (arguments.showing verbose quiet).OneVerbosity)
    (tree : FileTree) :
    let first := program words tree
    let second := program words' tree
    second.exitCode = first.exitCode ∧ second.output = first.output ∧ second.tree = first.tree ∧
    ∃ notices ending,
      first.errors = arguments.log notices ++ ending ∧
      second.errors = (arguments.showing verbose quiet).log notices ++ ending ∧
      (arguments = arguments.showing false false → (verbose, quiet) = (false, true) →
        first.errors = Notice.lines (notices.filter Notice.isSuppressed) ++ second.errors) ∧
      ∀ request, arguments.command = .select request → request.format = .json →
        first.exitCode = 0 → ∃ report : Report,
          report.unmatched = (warnedOf notices).map Selection.render ∧
          request.HandsOver (report.render .json) { tree } first.world ∧
          request.HandsOver (report.render .json) { tree } second.world := by
  intro first second
  obtain ⟨code, printed, notices, ending, after, ended, hands⟩ :=
    Arguments.exists_outcome_showing one tree
  have ended' : second = _ := (program_of_parse parsed' tree).trans (ended verbose quiet one')
  have ended : first = ⟨code, printed, arguments.log notices ++ ending, after⟩ :=
    (program_of_parse parsed tree).trans (ended arguments.verbose arguments.quiet one)
  rw [ended, ended']
  refine ⟨rfl, rfl, rfl, notices, ending, rfl, rfl, ?_, fun request selects format succeeded => ?_⟩
  · rintro standard ⟨rfl, rfl⟩
    simp only [Arguments.log_showing_quiet, String.empty_append]
    rw [standard, Arguments.log_showing_standard]
  · obtain ⟨config, suite, rfl, handed⟩ := hands request selects succeeded
    let resolution := request.choice.resolution suite.catalog
    simp only [SelectRequest.delivery, SelectRequest.report, format] at handed
    refine ⟨.ofResolution resolution (request.environment?.getD []), ?_, handed, handed⟩
    rw [SelectRequest.warnedOf_notices]
    rfl

/-- A suite of one benchmark, in a file of the root. -/
def singleSuite : FileTree where
  nodes := [(["m"], .file "benchmarks: [{name: a}]".toUTF8)]

/-- A quiet run does not warn of what means nothing, but its report lists it. -/
theorem program_showing_unmatched :
    let words := ["select", "-b", "a,b", "--manifest", "m", "--format", "json"]
    let first := program words singleSuite
    let second := program ("-q" :: words) singleSuite
    second.exitCode = first.exitCode ∧ second.output = first.output ∧ second.tree = first.tree ∧
      ∃ notices, first.errors = Notice.lines (notices.filter Notice.isSuppressed) ++ second.errors ∧
        ∃ report : Report, report.unmatched = (warnedOf notices).map Selection.render ∧
          second.output = report.render .json := by
  intro words first second
  let listed : List Selection :=
    [⟨.inclusion, "a", .name "a"⟩, ⟨.inclusion, "b", .name "b"⟩]
  let request : SelectRequest :=
    { manifest? := some ⟨"m"⟩, choice := .selections listed, format := .json }
  let arguments : Arguments := { command := .select request }
  have parsed : CommandLine.parse words = .ok arguments := by decide +kernel
  have parsed' : CommandLine.parse ("-q" :: words) = .ok (arguments.showing false true) := by
    decide +kernel
  have succeeded : first.exitCode = 0 := by decide +kernel
  obtain ⟨code, printed, left, notices, ending, gives, gives', suppressed, reported⟩ :=
    program_showing parsed parsed' (by decide) (by decide) singleSuite
  obtain ⟨report, unmatched, -, hands⟩ := reported request rfl rfl succeeded
  have shown := (hands.of_no_file rfl).1.trans String.empty_append
  exact ⟨code, printed, left, notices, suppressed rfl rfl, report, unmatched, shown⟩

/-- A quiet run leaves out more than warnings: here there is nothing to warn of, and it still does
not say that it starts. -/
theorem quiet_without_status_line :
    let words := ["list", "-b", "a", "--manifest", "m"]
    let arguments : Arguments :=
      { command := .list (some ⟨"m"⟩) (.selections [⟨.inclusion, "a", .name "a"⟩]) }
    CommandLine.parse words = .ok arguments ∧
      CommandLine.parse ("-q" :: words) = .ok (arguments.showing false true) ∧
      arguments.OneVerbosity ∧ (arguments.showing false true).OneVerbosity ∧
      ¬ ∃ selections : List Selection, (program words singleSuite).errors =
        Notice.lines (selections.map .unmatched) ++
          (program ("-q" :: words) singleSuite).errors := by
  intro words arguments
  have begins : (program words singleSuite).errors.toList.head? = some ' ' := by decide +kernel
  have nothing : (program ("-q" :: words) singleSuite).errors = "" := by decide +kernel
  refine ⟨by decide +kernel, by decide +kernel, by decide, by decide, ?_⟩
  rintro ⟨selections, warned⟩
  rw [warned, nothing, String.append_empty] at begins
  cases selections with
  | nil => exact absurd begins (by decide)
  | cons selection others =>
      have letter : "Warning: no benchmark named ".toList.head? = some 'W' := by decide +kernel
      simp only [Notice.lines, Notice.render_unmatched, List.map_cons, String.join_cons,
        String.toList_append, List.head?_append, letter, Option.some_or] at begins
      exact absurd begins (by decide)

end BenchSuite
