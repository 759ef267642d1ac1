import BenchSuite.Proofs.CommandLine.SharedOptions

/-!
# The choice of benchmarks on the command line

Exclusions begin with a dash, as options do, so the choice of benchmarks is taken as it stands.  It
may be given behind the short form of its option, behind the long one, or attached to that, and none
of the three ways looks at the text: it becomes the choice that it stands for, or it is refused with
the fault that is in it.
-/

namespace BenchSuite

/-- The choice that the command carries, if it is one that chooses benchmarks. -/
def Command.choice? : Command → Option Choice
  | .list _ choice => some choice
  | .listGroups _ => none
  | .select request => some request.choice

/-- The command with another choice in the place of its own. -/
def Command.choosing (choice : Choice) : Command → Command
  | .list manifest? _ => .list manifest? choice
  | .listGroups manifest? => .listGroups manifest?
  | .select request => .select { request with choice }

def Arguments.choosing (arguments : Arguments) (choice : Choice) : Arguments :=
  { arguments with command := arguments.command.choosing choice }

namespace CommandLine

/-- The ways to give a choice of benchmarks, each as the words that it takes. -/
def choiceWords (text : String) : List (List String) :=
  [["-b", text], ["--benchmarks", text], ["--benchmarks=" ++ text]]

theorem Level.short?_eq_some {level : Level} {option : OptionName} {c : Char}
    (known : option ∈ level.options) (short : option.short? = some c) :
    level.short? c = some option := by
  cases option <;> cases short <;> revert known <;> cases level <;> decide

namespace Progress

variable {level : Level} {progress : Progress}

/-- Where the reader is ready for an option, a short form alone is taken like the long one. -/
theorem word_short {option : OptionName} {word : String} {c : Char} (ready : progress.Ready)
    (known : option ∈ level.options) (short : option.short? = some c)
    (spelled : word.toList = ['-', c]) :
    progress.word level word = progress.word level option.form := by
  have other : c ≠ '-' := by
    rintro rfl
    cases option <;> cases short
  have taken : progress.word level word = progress.short level [c] := by
    unfold Progress.word
    rw [if_neg (by simp [ready.options, ready.takesAnything]), spelled]
    simp [other]
  rw [taken, word_form ready known]
  simp only [Progress.short, Level.short?_eq_some known short]
  split
  · exact bind_pure _
  · rfl

/-- However a choice is given at the end of a command, its text is tested and put into the settings
without another look at it. -/
theorem finish_choiceWords (filters : level.Filters) (ready : progress.Ready) {text : String}
    {words : List String} (given : words ∈ choiceWords text) :
    finish level progress words = (do
      let settings ← progress.settle
      settings.set .benchmarks text) := by
  have separate : finish level progress [OptionName.benchmarks.form, text] = (do
      let settings ← progress.settle
      settings.set .benchmarks text) := by
    rw [finish, words_benchmarks filters ready]
    simp only [bind_assoc]
    rfl
  have passes {word} : progress.meetsCommand level word = false :=
    meetsCommand_of_level filters.inner
  simp only [choiceWords, List.mem_cons, List.not_mem_nil, or_false] at given
  rcases given with rfl | rfl | rfl
  · rw [← separate, finish, finish, words_cons passes, words_cons passes,
      word_short ready filters.benchmarks rfl rfl]
  · exact separate
  · have attached : "--benchmarks=" ++ text = OptionName.benchmarks.attached text := rfl
    rw [attached, finish, words_cons passes, word_attached ready filters.benchmarks rfl]
    simp only [bind_assoc, pure_bind]
    exact bind_congr fun settings => bind_pure _

end Progress

theorem Settings.set_benchmarks {settings : Settings} (unset : settings.choice? = none)
    (text : String) :
    settings.set .benchmarks text =
      (fun choice => { settings with choice? := some choice }) <$>
        (Choice.parse text).mapError (.refusedValue ·.message) := by
  have absent : settings.has .benchmarks = false := by rw [has, unset, Option.isSome_none]
  unfold set
  rw [absent]
  cases Choice.parse text <;> rfl

theorem commandOf_choosing (level : Level) (settings : Settings) (choice : Choice) :
    commandOf level { settings with choice? := some choice } =
      Command.choosing choice <$> commandOf level settings := by
  cases level <;> rfl

section Commands

variable {command : String} {level : Level} (commands : Level.ofCommand? command = some level)

include commands

/-- A command line that begins with its command has no options of the program as a whole. -/
theorem parse_command (words : List String) :
    parse (command :: words) = (do
      let inner ← Progress.finish level {} words
      let command ← commandOf level inner
      pure (Settings.join {} inner command)) :=
  parse_of_command [] commands words

variable {plain : Command} (plainly : commandOf level {} = .ok plain)

include plainly

theorem parse_without_options : parse [command] = .ok { command := plain } := by
  have nothing : Progress.finish level {} [] = .ok {} := rfl
  rw [parse_command commands, nothing, ok_bind, plainly]
  rfl

theorem parse_choiceWords (filters : level.Filters) {text : String} {words : List String}
    (given : words ∈ choiceWords text) :
    parse (command :: words) = Arguments.choosing { command := plain } <$>
      (Choice.parse text).mapError (.refusedValue ·.message) := by
  have carries (choice : Choice) :
      commandOf level { choice? := some choice } = .ok (plain.choosing choice) := by
    have carried := commandOf_choosing level {} choice
    rw [plainly] at carried
    exact carried
  have settled : Progress.settle {} = .ok {} := rfl
  rw [parse_command commands, Progress.finish_choiceWords filters ⟨rfl, rfl⟩ given, settled,
    ok_bind, Settings.set_benchmarks rfl]
  simp only [bind_map_left, carries]
  rw [map_eq_pure_bind]
  rfl

end Commands

/-- A choice of benchmarks reaches the command as it stands, whatever its text looks like.  In each
of the three ways to give it, listing and selecting carry the choice that the text stands for and
are otherwise the same as without the option; if the text stands for no choice, its fault is all
that is reported.  Leaving the option out means the choice of the default group. -/
theorem parse_choice_as_it_stands (text : String) :
    ∀ command ∈ ["list", "select"], ∃ plain, parse [command] = .ok plain ∧
      (∀ choice, (plain.choosing choice).command.choice? = some choice) ∧
      (∀ words ∈ choiceWords text, parse (command :: words) =
        plain.choosing <$> (Choice.parse text).mapError (.refusedValue ·.message)) ∧
      ∀ words ∈ choiceWords "<default>", parse (command :: words) = parse [command] := by
  intro command chooses
  -- The two commands differ in what they carry.  How they are read is the same from here on.
  obtain ⟨level, plain, commands, filters, plainly, carries, standing⟩ : ∃ level plain,
      Level.ofCommand? command = some level ∧ level.Filters ∧ commandOf level {} = .ok plain ∧
        (∀ choice, (plain.choosing choice).choice? = some choice) ∧
        plain.choosing .standard = plain := by
    simp only [List.mem_cons, List.not_mem_nil, or_false] at chooses
    rcases chooses with rfl | rfl
    · exact ⟨.list, _, rfl, Level.filters_list, rfl, fun _ => rfl, rfl⟩
    · exact ⟨.select, _, rfl, Level.filters_select, rfl, fun _ => rfl, rfl⟩
  have alone := parse_without_options commands plainly
  refine ⟨_, alone, carries, fun words given => ?_, fun words given => ?_⟩
  · exact parse_choiceWords commands plainly filters given
  · have standard : Choice.parse "<default>" = .ok .standard := by decide +kernel
    have same : Arguments.choosing { command := plain } .standard = { command := plain } := by
      rw [Arguments.choosing, standing]
    rw [parse_choiceWords commands plainly filters given, standard, alone]
    exact congrArg Except.ok same

/-- Two dashes are no mark of the end of options here, but exclude the benchmark called `-`. -/
theorem parse_choice_two_dashes :
    "select" ∈ ["list", "select"] ∧ parse ["select", "-b", "--"] =
      .ok { command := .select { choice := .selections [⟨.exclusion, "-", .name "-"⟩] } } := by
  refine ⟨by decide, ?_⟩
  obtain ⟨plain, alone, -, taken, -⟩ := parse_choice_as_it_stands "--" "select" (by decide)
  have usual : parse ["select"] = .ok { command := .select { choice := .standard } } := rfl
  obtain rfl := Except.ok.inj (alone.symm.trans usual)
  have excludes : Choice.parse "--" = .ok (.selections [⟨.exclusion, "-", .name "-"⟩]) := by
    decide +kernel
  rw [taken ["-b", "--"] (by decide), excludes]
  rfl

end CommandLine

end BenchSuite
