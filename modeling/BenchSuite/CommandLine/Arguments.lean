import BenchSuite.CommandLine.Choice
import BenchSuite.Config
import BenchSuite.Report

/-!
# Arguments

What the user asks for: one of three commands with its options, and the options common to all.
-/

namespace BenchSuite

structure SelectRequest where
  manifest? : Option Path := none
  choice : Choice
  output? : Option Path := none
  format : ReportFormat := .plain
  allowsNothing : Bool := false
  environment? : Option (List String) := none
deriving DecidableEq, Repr

inductive Command
  | list (manifest? : Option Path) (choice : Choice)
  | listGroups (manifest? : Option Path)
  | select (request : SelectRequest)
deriving DecidableEq, Repr

def Command.manifest? : Command → Option Path
  | .list manifest? _ => manifest?
  | .listGroups manifest? => manifest?
  | .select request => request.manifest?

def Command.output? : Command → Option Path
  | .list _ _ | .listGroups _ => none
  | .select request => request.output?

structure Arguments where
  verbose : Bool := false
  quiet : Bool := false
  config? : Option Path := none
  command : Command
deriving DecidableEq, Repr

/-- Why arguments contradict each other or the configuration. -/
inductive ArgumentsConflict
  | verboseAndQuiet
  | nothingChosen
deriving DecidableEq, Repr

def ArgumentsConflict.message : ArgumentsConflict → String
  | .verboseAndQuiet => "Arguments `--verbose` and `--quiet` are mutually exclusive."
  | .nothingChosen => "--benchmarks cannot be empty"

namespace Arguments

/-- The command asks for no benchmarks although it must not. -/
def choosesNothing (arguments : Arguments) (config : Config) : Bool :=
  match arguments.command with
  | .list _ choice => choice.isNothing
  | .listGroups _ => false
  | .select request =>
      request.choice.isNothing && !(request.allowsNothing || config.allowsNothing)

/-- The first conflict among the arguments under a configuration. -/
def conflict? (arguments : Arguments) (config : Config) : Option ArgumentsConflict :=
  if arguments.verbose && arguments.quiet then some .verboseAndQuiet
  else if arguments.choosesNothing config then some .nothingChosen
  else none

end Arguments

end BenchSuite
