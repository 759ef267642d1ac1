import BenchSuite.Json.Printer
import BenchSuite.Selection.Resolution
import BenchSuite.Text.Lowercase

/-!
# Reports

A report hands the selected benchmarks over to whoever runs them: as lines, one benchmark each, or
as a JSON object that also holds the selections that meant nothing and, if there are any, the
environment variables to be passed on.
-/

namespace BenchSuite

inductive ReportFormat
  | plain
  | json
deriving DecidableEq, Repr

namespace ReportFormat

def name : ReportFormat → String
  | .plain => "plain"
  | .json => "json"

/-- All formats, in the order in which they are offered. -/
def all : List ReportFormat := [.plain, .json]

/-- The format of a name, in letters of either case; otherwise the report of an unknown one. -/
def parse (text : String) : Except String ReportFormat :=
  let text := Text.lowercase text
  match all.find? (·.name == text) with
  | some format => .ok format
  | none =>
      .error ("Unknown output format `" ++ text ++ "`. Supported formats: " ++
        ", ".intercalate (all.map name))

end ReportFormat

/-- What is handed over: the selected benchmarks in the order of the suite, the selections that
meant nothing, and the environment variables to be passed on. -/
structure Report where
  benchmarks : List String
  unmatched : List String
  environment : List String := []
deriving DecidableEq, Repr

namespace Report

def ofResolution (resolution : Resolution) (environment : List String) : Report :=
  { benchmarks := resolution.benchmarks
    unmatched := resolution.unmatched.map Selection.render
    environment }

def lines (report : Report) : String :=
  String.join (report.benchmarks.map (· ++ "\n"))

def toJson (report : Report) : Json :=
  let environment :=
    if report.environment.isEmpty then []
    else [("inherit_environ", Json.texts report.environment)]
  .object
    ([("benchmarks", Json.texts report.benchmarks), ("unmatched", Json.texts report.unmatched)] ++
      environment)

def render (report : Report) : ReportFormat → String
  | .plain => report.lines
  | .json => report.toJson.render ++ "\n"

end Report

end BenchSuite
