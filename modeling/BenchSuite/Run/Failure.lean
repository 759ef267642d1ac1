import BenchSuite.CommandLine.Arguments
import BenchSuite.Manifest.Loading

/-!
# Failures

A run can fail at each of its stages.  A failed run hands nothing over and leaves every file as it
was.
-/

namespace BenchSuite

/-- Why a run fails, in the order of its stages. -/
inductive Failure
  | config (error : ConfigError)
  | conflict (error : ArgumentsConflict)
  | manifest (path : Path) (error : LoadError)
  | selection (error : SelectionError)
  | nothingSelected
  | output (path : Path) (error : FileError)
deriving DecidableEq, Repr

def Failure.message : Failure → String
  | .config error => error.message
  | .conflict error => error.message
  | .manifest path error => "Benchmark manifest " ++ path.quoted ++ ": " ++ error.message
  | .selection error => error.message
  | .nothingSelected => "No benchmarks selected"
  | .output path error => "Output file " ++ path.quoted ++ " creating: " ++ error.message

end BenchSuite
