import BenchSuite.CommandLine.Arguments

/-!
# Options

Every level of the command line, the program itself and each of its commands, has options of its
own.  An option is a flag, which takes no value, or it takes one value; the choice of benchmarks is
taken as it stands, whatever it begins with.  An option may be given once at each level.
-/

namespace BenchSuite.CommandLine

inductive OptionName
  | verbose
  | quiet
  | config
  | manifest
  | benchmarks
  | output
  | format
  | allowNoBenchmarks
  | inheritEnviron
  | help
  | version
deriving DecidableEq, Repr

namespace OptionName

/-- The long form, without its dashes. -/
def long : OptionName → String
  | .verbose => "verbose"
  | .quiet => "quiet"
  | .config => "config"
  | .manifest => "manifest"
  | .benchmarks => "benchmarks"
  | .output => "output"
  | .format => "format"
  | .allowNoBenchmarks => "allow-no-benchmarks"
  | .inheritEnviron => "inherit-environ"
  | .help => "help"
  | .version => "version"

def short? : OptionName → Option Char
  | .verbose => some 'v'
  | .quiet => some 'q'
  | .benchmarks => some 'b'
  | .output => some 'o'
  | .help => some 'h'
  | .version => some 'V'
  | _ => none

def isFlag : OptionName → Bool
  | .verbose | .quiet | .allowNoBenchmarks | .help | .version => true
  | _ => false

/-- The value may look like an option. -/
def takesAnything : OptionName → Bool
  | .benchmarks => true
  | _ => false

end OptionName

/-- The levels of the command line. -/
inductive Level
  | program
  | list
  | listGroups
  | select
deriving DecidableEq, Repr

namespace Level

def options : Level → List OptionName
  | .program => [.verbose, .quiet, .config, .help, .version]
  | .list => [.manifest, .benchmarks, .verbose, .quiet, .config, .help]
  | .listGroups => [.manifest, .verbose, .quiet, .config, .help]
  | .select =>
      [.manifest, .benchmarks, .output, .format, .allowNoBenchmarks, .inheritEnviron, .verbose,
        .quiet, .config, .help]

def long? (level : Level) (form : String) : Option OptionName :=
  level.options.find? (·.long == form)

def short? (level : Level) (form : Char) : Option OptionName :=
  level.options.find? (·.short? == some form)

def ofCommand? : String → Option Level
  | "list" => some .list
  | "list-groups" => some .listGroups
  | "list_groups" => some .listGroups
  | "select" => some .select
  | _ => none

end Level

def helpWord : String := "help"

def isCommandWord (word : String) : Bool :=
  word == helpWord || (Level.ofCommand? word).isSome

/-- Why a command line is not understood, or what it asks for instead of a run. -/
inductive UsageError
  | unknownArgument
  | invalidCommand
  | missingCommand
  | missingArguments
  | invalidValue
  | unneededValue
  | repeatedOption
  | refusedValue (message : String)
  | helpRequested
  | versionRequested
deriving DecidableEq, Repr

/-- What the options of one level say. -/
structure Settings where
  verbose : Bool := false
  quiet : Bool := false
  config? : Option Path := none
  manifest? : Option Path := none
  choice? : Option Choice := none
  output? : Option Path := none
  format? : Option ReportFormat := none
  allowsNothing : Bool := false
  environment? : Option (List String) := none
deriving DecidableEq, Repr

namespace Settings

def has (settings : Settings) : OptionName → Bool
  | .verbose => settings.verbose
  | .quiet => settings.quiet
  | .config => settings.config?.isSome
  | .manifest => settings.manifest?.isSome
  | .benchmarks => settings.choice?.isSome
  | .output => settings.output?.isSome
  | .format => settings.format?.isSome
  | .allowNoBenchmarks => settings.allowsNothing
  | .inheritEnviron => settings.environment?.isSome
  | .help | .version => false

def isEmpty (settings : Settings) : Bool :=
  settings = {}

/-- Reads a path, which must not be empty. -/
def path (text : String) : Except UsageError Path :=
  if text.isEmpty then .error .invalidValue else .ok ⟨text⟩

def flag (settings : Settings) (option : OptionName) : Except UsageError Settings :=
  if settings.has option then .error .repeatedOption
  else
    match option with
    | .verbose => .ok { settings with verbose := true }
    | .quiet => .ok { settings with quiet := true }
    | .allowNoBenchmarks => .ok { settings with allowsNothing := true }
    | .help => .error .helpRequested
    | .version => .error .versionRequested
    | _ => .error .invalidValue

def set (settings : Settings) (option : OptionName) (value : String) :
    Except UsageError Settings := do
  if settings.has option then
    throw .repeatedOption
  match option with
  | .config => pure { settings with config? := some (← path value) }
  | .manifest => pure { settings with manifest? := some (← path value) }
  | .output => pure { settings with output? := some (← path value) }
  | .benchmarks =>
      let choice ← (Choice.parse value).mapError (.refusedValue ·.message)
      pure { settings with choice? := some choice }
  | .format =>
      let format ← (ReportFormat.parse value).mapError .refusedValue
      pure { settings with format? := some format }
  | .inheritEnviron =>
      let names ← (parseVariables value).mapError (.refusedValue ·.message)
      pure { settings with environment? := some names }
  | _ => throw .unneededValue

/-- The choice of benchmarks, which is the default group unless another one is given. -/
def choice (settings : Settings) : Choice :=
  settings.choice?.getD .standard

end Settings

end BenchSuite.CommandLine
