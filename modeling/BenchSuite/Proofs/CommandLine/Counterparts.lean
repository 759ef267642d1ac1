import BenchSuite.Proofs.CommandLine.SharedOptions

/-!
# Selecting in place of listing

A command line that selects benchmarks is understood like the one that lists them by the same
options: with the same settings, or with the same fault.  The options that only selecting has change
nothing about this.
-/

namespace BenchSuite

/-- No other word than the one for it means no benchmarks at all. -/
theorem Choice.ends_parse {text : String} (other : text ≠ nothingWord) :
    Ends (parse text) (· ≠ .nothing) (fun _ => True) := by
  unfold parse
  rw [if_neg other]
  cases Selection.parse (Text.lowercase text) with
  | ok selections => exact nofun
  | error error => exact trivial

namespace CommandLine

/-- The command line that selects benchmarks in a format, and may allow that there are none. -/
def selecting (format : ReportFormat) (allowsNothing : Bool) (globals : List GlobalOption)
    (options : List FilterOption) : List String :=
  globals.map GlobalOption.word ++ "select" :: OptionName.format.form :: format.name ::
    ((if allowsNothing then [OptionName.allowNoBenchmarks.form] else []) ++
      options.flatMap FilterOption.words)

/-- The settings of a selection that is to be handed over in a format, and may be empty. -/
def Settings.forSelection (settings : Settings) (format : ReportFormat) (allowsNothing : Bool) :
    Settings :=
  { settings with format? := some format, allowsNothing }

/-- The request that the settings of a command make, to be handed over in a format. -/
def Settings.request (settings : Settings) (format : ReportFormat) (allowsNothing : Bool) :
    SelectRequest :=
  { manifest? := settings.manifest?
    choice := settings.choice
    output? := settings.output?
    format
    allowsNothing
    environment? := settings.environment? }

section Frame

variable (format : ReportFormat) (allowsNothing : Bool) (settings : Settings)

section Shared

variable {option : OptionName} (shared : option ∈ Level.list.options)

include shared

theorem Settings.has_forSelection :
    (settings.forSelection format allowsNothing).has option = settings.has option := by
  cases option <;> first | rfl | exact absurd shared (by decide)

theorem Settings.flag_forSelection :
    (settings.forSelection format allowsNothing).flag option =
      (forSelection · format allowsNothing) <$> settings.flag option := by
  unfold flag
  rw [settings.has_forSelection format allowsNothing shared]
  split
  · rfl
  · cases option <;> first | rfl | exact absurd shared (by decide)

theorem Settings.set_forSelection (value : String) :
    (settings.forSelection format allowsNothing).set option value =
      (forSelection · format allowsNothing) <$> settings.set option value := by
  unfold set
  rw [settings.has_forSelection format allowsNothing shared]
  cases settings.has option with
  | true => rfl
  | false =>
      cases option with
      | config => cases path value <;> rfl
      | manifest => cases path value <;> rfl
      | benchmarks => cases Choice.parse value <;> rfl
      | _ => first | rfl | exact absurd shared (by decide)

end Shared

theorem GlobalOption.give_forSelection (option : GlobalOption) :
    option.give (settings.forSelection format allowsNothing) =
      (Settings.forSelection · format allowsNothing) <$> option.give settings := by
  cases option with
  | verbose => exact settings.flag_forSelection format allowsNothing (by decide)
  | quiet => exact settings.flag_forSelection format allowsNothing (by decide)
  | config path => exact settings.set_forSelection format allowsNothing (by decide) path

theorem FilterOption.give_forSelection (option : FilterOption) :
    option.give (settings.forSelection format allowsNothing) =
      (Settings.forSelection · format allowsNothing) <$> option.give settings := by
  cases option with
  | global option => exact option.give_forSelection format allowsNothing settings
  | manifest path => exact settings.set_forSelection format allowsNothing (by decide) path
  | benchmarks text => exact settings.set_forSelection format allowsNothing (by decide) text

theorem foldlM_give_forSelection (options : List FilterOption) :
    options.foldlM FilterOption.give (settings.forSelection format allowsNothing) =
      (Settings.forSelection · format allowsNothing) <$>
        options.foldlM FilterOption.give settings := by
  induction options generalizing settings with
  | nil => rfl
  | cons option options ih =>
      rw [List.foldlM_cons, List.foldlM_cons, option.give_forSelection, map_bind, bind_map_left]
      exact bind_congr ih

end Frame

/-- The options that only selecting has leave the reader ready for the others. -/
theorem Progress.words_selecting (format : ReportFormat) (allowsNothing : Bool) :
    ∃ progress : Progress, progress.Ready ∧
      progress.settle = .ok (Settings.forSelection {} format allowsNothing) ∧
      ∀ rest, words .select {} (OptionName.format.form :: format.name ::
        ((if allowsNothing then [OptionName.allowNoBenchmarks.form] else []) ++ rest)) =
          words .select progress rest := by
  have passes {progress word} : meetsCommand .select progress word = false :=
    meetsCommand_of_level (by decide)
  have asked : word .select {} OptionName.format.form = .ok { pending := .awaiting .format } :=
    word_awaiting ⟨rfl, rfl⟩ (by decide) rfl
  have named : word .select { pending := .awaiting .format } format.name =
      .ok { pending := .complete .format format.name } := by
    cases format <;> decide
  have settled : settle { pending := .complete .format format.name } =
      .ok { format? := some format } := by
    cases format <;> decide
  have flagged : word .select { pending := .complete .format format.name }
      OptionName.allowNoBenchmarks.form =
        .ok { settings := { format? := some format, allowsNothing := true } } := by
    rw [word_flag ⟨rfl, rfl⟩ (by decide) rfl, settled]
    rfl
  cases allowsNothing with
  | false =>
      refine ⟨{ pending := .complete .format format.name }, ⟨rfl, rfl⟩, settled, fun rest => ?_⟩
      rw [words_cons passes, asked, ok_bind, words_cons passes, named]
      rfl
  | true =>
      refine ⟨{ settings := Settings.forSelection {} format true }, ⟨rfl, rfl⟩, rfl, fun rest => ?_⟩
      rw [words_cons passes, asked, ok_bind, words_cons passes, named, ok_bind, if_pos rfl,
        List.singleton_append, words_cons passes, flagged]
      rfl

theorem parse_selecting (format : ReportFormat) (allowsNothing : Bool)
    (globals : List GlobalOption) (options : List FilterOption) :
    parse (selecting format allowsNothing globals options) = (do
      let (outer, inner) ← settingsOf globals options
      pure (outer.join inner (.select (inner.request format allowsNothing)))) := by
  obtain ⟨progress, ready, settled, reads⟩ := Progress.words_selecting format allowsNothing
  unfold selecting settingsOf
  rw [parse_of_command globals rfl, Progress.finish, reads, ← Progress.finish,
    Progress.finish_filters Level.filters_select options ready, settled, ok_bind,
    foldlM_give_forSelection]
  simp only [bind_assoc, pure_bind, bind_map_left]
  rfl

section Faults

/-- The command line is at fault, and does not ask for help or the version instead of a run. -/
def UsageError.IsFault (error : UsageError) : Prop :=
  error ≠ .helpRequested ∧ error ≠ .versionRequested

/-- Listing with the same settings is the counterpart of selecting with them. -/
structure Settings.Comparable (settings : Settings) : Prop where
  output : settings.output? = none
  environment : settings.environment? = none
  choosesSomething : settings.choice ≠ .nothing

theorem Settings.comparable_empty : Settings.Comparable {} :=
  ⟨rfl, rfl, nofun⟩

theorem Settings.ends_path (text : String) :
    Ends (path text) (fun _ => True) UsageError.IsFault := by
  unfold path
  split
  · exact ⟨nofun, nofun⟩
  · trivial

variable {settings : Settings} (comparable : settings.Comparable)

include comparable

theorem Settings.Comparable.ends_flag {option : OptionName}
    (verbosity : option = .verbose ∨ option = .quiet) :
    Ends (settings.flag option) Settings.Comparable UsageError.IsFault := by
  unfold Settings.flag
  split
  · exact ⟨nofun, nofun⟩
  · obtain rfl | rfl := verbosity <;> exact { comparable with }

theorem Settings.Comparable.ends_set_path {option : OptionName} (value : String)
    (place : option = .config ∨ option = .manifest) :
    Ends (settings.set option value) Settings.Comparable UsageError.IsFault := by
  unfold Settings.set
  cases settings.has option with
  | true => exact ⟨nofun, nofun⟩
  | false =>
      obtain rfl | rfl := place
      · exact (Settings.ends_path value).bind fun path _ => { comparable with }
      · exact (Settings.ends_path value).bind fun path _ => { comparable with }

theorem Settings.Comparable.ends_set_benchmarks {text : String}
    (other : text ≠ Choice.nothingWord) :
    Ends (settings.set .benchmarks text) Settings.Comparable UsageError.IsFault := by
  unfold Settings.set
  cases settings.has .benchmarks with
  | true => exact ⟨nofun, nofun⟩
  | false =>
      have refused : ∀ error : NameError, (UsageError.refusedValue error.message).IsFault :=
        fun _ => ⟨nofun, nofun⟩
      have parses : Ends (Choice.parse text) (· ≠ .nothing) fun error =>
          (UsageError.refusedValue error.message).IsFault :=
        (Choice.ends_parse other).mono (fun _ => id) fun error _ => refused error
      refine parses.mapError.bind fun choice something => ?_
      exact { comparable with choosesSomething := something }

theorem GlobalOption.ends_give (option : GlobalOption) :
    Ends (option.give settings) Settings.Comparable UsageError.IsFault := by
  cases option with
  | verbose => exact comparable.ends_flag (.inl rfl)
  | quiet => exact comparable.ends_flag (.inr rfl)
  | config path => exact comparable.ends_set_path path (.inl rfl)

theorem FilterOption.ends_give {option : FilterOption}
    (other : option ≠ .benchmarks Choice.nothingWord) :
    Ends (option.give settings) Settings.Comparable UsageError.IsFault := by
  cases option with
  | global option => exact option.ends_give comparable
  | manifest path => exact comparable.ends_set_path path (.inr rfl)
  | benchmarks text =>
      exact comparable.ends_set_benchmarks fun same => other (by rw [same])

omit comparable in
theorem ends_settingsOf (globals : List GlobalOption) {options : List FilterOption}
    (something : .benchmarks Choice.nothingWord ∉ options) :
    Ends (settingsOf globals options) (fun (_, inner) => inner.Comparable)
      UsageError.IsFault := by
  have outside : Ends (globals.foldlM GlobalOption.give {}) Settings.Comparable
      UsageError.IsFault :=
    Ends.foldlM (motive := fun _ => Settings.Comparable) Settings.comparable_empty
      fun _ option _ _ _ comparable => option.ends_give comparable
  refine outside.bind fun outer _ => ?_
  have inside : Ends (options.foldlM FilterOption.give {}) Settings.Comparable
      UsageError.IsFault := by
    refine Ends.foldlM (motive := fun _ => Settings.Comparable) Settings.comparable_empty ?_
    rintro done option rest settings rfl comparable
    exact FilterOption.ends_give comparable fun same => something (by simp [same])
  exact inside.bind fun inner comparable => comparable

end Faults

end CommandLine

end BenchSuite
