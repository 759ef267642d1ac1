import BenchSuite.CommandLine.Parser
import BenchSuite.Run.Basic

/-!
# The program

The program reads its command line, runs, and ends with an exit code: zero after a success, one after
a failure, and two if the command line is not understood.  What has been printed on the standard
output and the files are those of the world in which the run ends.
-/

namespace BenchSuite

/-- What can be seen of the program from outside. -/
structure Outcome where
  exitCode : Nat
  output : String
  errors : String
  tree : FileTree
deriving DecidableEq

namespace CommandLine

def versionText : String := "benchmark-harness 2.0.0\n"

def helpText : String :=
  "Benchmark harness front end\n\n" ++
  "Usage: benchmark-harness [OPTIONS] <COMMAND>\n\n" ++
  "Commands:\n" ++
  "  list         Lists the selected benchmarks of the manifest\n" ++
  "  list-groups  Lists the benchmark groups of the manifest\n" ++
  "  select       Resolves the selected benchmarks for the benchmark runner\n" ++
  "  help         Print this message or the help of the given subcommand(s)\n\n" ++
  "Options:\n" ++
  "  -v, --verbose          Prints the manifest path and the parsed selections\n" ++
  "  -q, --quiet            Suppresses the status lines and warnings\n" ++
  "      --config <CONFIG>  Path to the JSON config file\n" ++
  "  -h, --help             Print help\n" ++
  "  -V, --version          Print version\n"

def UsageError.message : UsageError → String
  | .unknownArgument => "unexpected argument found"
  | .invalidCommand => "unrecognized subcommand"
  | .missingCommand => "a subcommand is required but one was not provided"
  | .missingArguments => "arguments are required but were not provided"
  | .invalidValue => "a value is required but none was supplied"
  | .unneededValue => "unexpected value for a flag found; no more were expected"
  | .repeatedOption => "an option cannot be used multiple times"
  | .refusedValue message => "invalid value: " ++ message
  | .helpRequested => "help requested"
  | .versionRequested => "version requested"

/-- What the program does with a command line that asks for no run. -/
def UsageError.outcome (error : UsageError) (tree : FileTree) : Outcome :=
  match error with
  | .helpRequested => ⟨0, helpText, "", tree⟩
  | .versionRequested => ⟨0, versionText, "", tree⟩
  | .missingArguments => ⟨2, "", helpText, tree⟩
  | _ => ⟨2, "", "error: " ++ error.message ++ "\n", tree⟩

end CommandLine

def Arguments.log (arguments : Arguments) (notices : List Notice) : String :=
  String.join <|
    (notices.filter (Notice.isShown arguments.verbose arguments.quiet)).map (·.render ++ "\n")

def Arguments.outcome (arguments : Arguments) (tree : FileTree) : Outcome :=
  let (result, world) := arguments.run.outcome { tree }
  let log := arguments.log world.notices
  match result with
  | .ok () => ⟨0, world.printed, log, world.tree⟩
  | .error failure =>
      ⟨1, world.printed, log ++ "Error: " ++ failure.message ++ "\n", world.tree⟩

/-- What the program does with the words of its command line. -/
def program (words : List String) (tree : FileTree) : Outcome :=
  match CommandLine.parse words with
  | .ok arguments => arguments.outcome tree
  | .error error => error.outcome tree

end BenchSuite
