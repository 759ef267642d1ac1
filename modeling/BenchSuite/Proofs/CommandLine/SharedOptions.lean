import BenchSuite.Proofs.CommandLine.LongForms
import BenchSuite.Proofs.FallibleComputation

/-!
# The options that listing and selecting share

Listing and selecting choose benchmarks by the same options: those of the program, the manifest and
the choice itself.  A command that has these options reads them one after the other, each of them as
it changes the settings, wherever the reader is ready for an option.
-/

namespace BenchSuite.CommandLine

/-- An option of the program as a whole, as it is given. -/
inductive GlobalOption
  | verbose
  | quiet
  | config (path : String)
deriving DecidableEq, Repr

/-- An option that listing and selecting have in common, as it is given. -/
inductive FilterOption
  | global (option : GlobalOption)
  | manifest (path : String)
  | benchmarks (text : String)
deriving DecidableEq, Repr

namespace GlobalOption

/-- The word by which the option is given. -/
def word : GlobalOption → String
  | .verbose => OptionName.verbose.form
  | .quiet => OptionName.quiet.form
  | .config path => OptionName.config.attached path

/-- What the option makes of the settings. -/
def give (settings : Settings) : GlobalOption → Except UsageError Settings
  | .verbose => settings.flag .verbose
  | .quiet => settings.flag .quiet
  | .config path => settings.set .config path

end GlobalOption

namespace FilterOption

/-- The words by which the option is given.  A choice of benchmarks stands in a word of its own. -/
def words : FilterOption → List String
  | .global option => [option.word]
  | .manifest path => [OptionName.manifest.attached path]
  | .benchmarks text => [OptionName.benchmarks.form, text]

/-- What the option makes of the settings. -/
def give (settings : Settings) : FilterOption → Except UsageError Settings
  | .global option => option.give settings
  | .manifest path => settings.set .manifest path
  | .benchmarks text => settings.set .benchmarks text

end FilterOption

/-- The level has the options that listing and selecting share. -/
structure Level.Filters (level : Level) : Prop where
  inner : level ≠ .program
  globals : ∀ option ∈ [.verbose, .quiet, .config], option ∈ level.options
  manifest : .manifest ∈ level.options
  benchmarks : .benchmarks ∈ level.options

theorem Level.filters_list : Level.list.Filters := by
  constructor <;> decide

theorem Level.filters_select : Level.select.Filters := by
  constructor <;> decide

namespace Progress

/-- What the words of a level have said in the end. -/
def finish (level : Level) (progress : Progress) (words : List String) :
    Except UsageError Settings := do
  let (progress, _) ← Progress.words level progress words
  progress.settle

variable {level : Level} {progress : Progress} {rest : List String}

/-- Behind a word that gives an option at once, no value is left to be tested. -/
theorem words_of_give {word : String} {give : Settings → Except UsageError Settings}
    (passes : progress.meetsCommand level word = false)
    (gives : progress.word level word = (do
      let settings ← progress.settle
      pure { settings := ← give settings })) :
    words level progress (word :: rest) = (do
      let settings ← progress.settle
      words level { settings := ← give settings } rest) := by
  rw [words_cons passes, gives]
  simp only [bind_assoc, pure_bind]

theorem word_global (ready : progress.Ready) (option : GlobalOption)
    (known : ∀ name ∈ [.verbose, .quiet, .config], name ∈ level.options) :
    progress.word level option.word = (do
      let settings ← progress.settle
      pure { settings := ← option.give settings }) := by
  cases option with
  | verbose => exact word_flag ready (known _ (by simp)) rfl
  | quiet => exact word_flag ready (known _ (by simp)) rfl
  | config path => exact word_attached ready (known _ (by simp)) rfl path

theorem toList_word_global (option : GlobalOption) :
    ∃ rest, option.word.toList = '-' :: rest := by
  cases option with
  | verbose => exact ⟨_, OptionName.toList_form .verbose⟩
  | quiet => exact ⟨_, OptionName.toList_form .quiet⟩
  | config path => exact ⟨_, OptionName.toList_attached .config path⟩

/-- In front of the command, the options of the program make the settings one after the other. -/
theorem words_globals (globals : List GlobalOption) (settings : Settings) {command : String}
    (commands : isCommandWord command = true) :
    words .program { settings } (globals.map GlobalOption.word ++ command :: rest) = (do
      let settings ← globals.foldlM GlobalOption.give settings
      pure ({ settings }, command :: rest)) := by
  induction globals generalizing settings with
  | nil =>
      have meets : meetsCommand .program { settings } command = true := by
        simp [meetsCommand, isAwaiting, commands]
      rw [List.map_nil, List.nil_append, words, meets]
      rfl
  | cons option options ih =>
      obtain ⟨_, dash⟩ := toList_word_global option
      rw [List.map_cons, List.cons_append,
        words_of_give (meetsCommand_of_dash dash) (word_global ⟨rfl, rfl⟩ option (by decide)),
        List.foldlM_cons]
      simp only [ih, bind_assoc]
      rfl

section Filters

variable (filters : level.Filters)

include filters

theorem words_benchmarks (ready : progress.Ready) (text : String) :
    words level progress (OptionName.benchmarks.form :: text :: rest) = (do
      let settings ← progress.settle
      words level { settings, pending := .complete .benchmarks text } rest) := by
  have takes : ∀ settings, word level { settings, pending := .awaiting .benchmarks } text =
      .ok { settings, pending := .complete .benchmarks text } := fun settings => rfl
  rw [words_cons (meetsCommand_of_level filters.inner), word_awaiting ready filters.benchmarks rfl]
  simp only [bind_assoc, pure_bind]
  refine bind_congr fun settings => ?_
  rw [words_cons (meetsCommand_of_level filters.inner), takes]
  rfl

/-- In the end the settings of a command are what its options make of them one after the other.
That a value is tested late changes nothing about the first fault. -/
theorem finish_filters (options : List FilterOption) (ready : progress.Ready) :
    finish level progress (options.flatMap FilterOption.words) = (do
      let settings ← progress.settle
      options.foldlM FilterOption.give settings) := by
  induction options generalizing progress with
  | nil => exact (bind_pure _).symm
  | cons option options ih =>
      have passes {word} : progress.meetsCommand level word = false :=
        meetsCommand_of_level filters.inner
      have gives : ∀ settings,
          finish level { settings } (options.flatMap FilterOption.words) =
            options.foldlM FilterOption.give settings :=
        fun settings => ih ⟨rfl, rfl⟩
      unfold finish at ih gives ⊢
      simp only [List.flatMap_cons, List.foldlM_cons]
      cases option with
      | global option =>
          have takes := word_global ready option filters.globals
          simp only [FilterOption.words, List.singleton_append, words_of_give passes takes,
            bind_assoc, gives]
          rfl
      | manifest path =>
          have takes := word_attached ready filters.manifest rfl path
          simp only [FilterOption.words, List.singleton_append, words_of_give passes takes,
            bind_assoc, gives]
          rfl
      | benchmarks text =>
          -- The text is not tested yet: the next option does this, or the end.
          simp only [FilterOption.words, List.cons_append, List.nil_append,
            words_benchmarks filters ready, bind_assoc]
          exact bind_congr fun settings => ih ⟨rfl, rfl⟩

end Filters

end Progress

/-- The settings of the program and those of its command, made by the options of both. -/
def settingsOf (globals : List GlobalOption) (options : List FilterOption) :
    Except UsageError (Settings × Settings) := do
  let outer ← globals.foldlM GlobalOption.give {}
  let inner ← options.foldlM FilterOption.give {}
  pure (outer, inner)

/-- The arguments that settings make with a command. -/
def Settings.join (outer inner : Settings) (command : Command) : Arguments :=
  { verbose := outer.verbose || inner.verbose
    quiet := outer.quiet || inner.quiet
    config? := inner.config?.or outer.config?
    command }

theorem parseCommand_of_settings (level : Level) (outer : Settings) (words : List String) :
    parseCommand level { settings := outer } words = (do
      let inner ← Progress.finish level {} words
      let command ← commandOf level inner
      pure (outer.join inner command)) := by
  unfold parseCommand Progress.finish
  simp only [bind_assoc]
  rfl

theorem parse_of_command (globals : List GlobalOption) {command : String} {level : Level}
    (commands : Level.ofCommand? command = some level) (words : List String) :
    parse (globals.map GlobalOption.word ++ command :: words) = (do
      let outer ← globals.foldlM GlobalOption.give {}
      let inner ← Progress.finish level {} words
      let command ← commandOf level inner
      pure (outer.join inner command)) := by
  have isCommand : isCommandWord command = true := by
    rw [isCommandWord, commands, Option.isSome_some, Bool.or_true]
  unfold parse
  rw [Progress.words_globals globals {} isCommand]
  simp only [bind_assoc, pure_bind, commands, parseCommand_of_settings]

/-- The command line that lists benchmarks. -/
def listing (globals : List GlobalOption) (options : List FilterOption) : List String :=
  globals.map GlobalOption.word ++ "list" :: options.flatMap FilterOption.words

theorem parse_listing (globals : List GlobalOption) (options : List FilterOption) :
    parse (listing globals options) = (do
      let (outer, inner) ← settingsOf globals options
      pure (outer.join inner (.list inner.manifest? inner.choice))) := by
  unfold listing settingsOf
  rw [parse_of_command globals rfl, Progress.finish_filters Level.filters_list options ⟨rfl, rfl⟩]
  simp only [bind_assoc, pure_bind]
  rfl

end BenchSuite.CommandLine
