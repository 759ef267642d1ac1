import BenchSuite.Files.Path
import BenchSuite.Selection.Expression

/-!
# Notices

While it runs, the program tells its user what it does.  Status lines and warnings are shown unless
the user wants it quiet; details are shown only on demand.  Which notices are shown never changes
which ones there are.
-/

namespace BenchSuite

inductive Notice
  | starting
  | loading (manifest : Path)
  | selecting (selections : List Selection)
  | unmatched (selection : Selection)
  | finished (count : Nat)
deriving DecidableEq, Repr

namespace Notice

def title : String := "Benchmark harness front end v2.0.0"

/-- The notice is shown on demand only. -/
def isDetail : Notice → Bool
  | .loading _ | .selecting _ => true
  | .starting | .unmatched _ | .finished _ => false

def isShown (verbose quiet : Bool) (notice : Notice) : Bool :=
  if notice.isDetail then verbose else !quiet

/-- The columns that the activity of a status line takes, aligned to the right. -/
def activityWidth : Nat := 12

def statusLine (activity text : String) : String :=
  String.ofList (List.replicate (activityWidth - activity.length) ' ') ++ activity ++ " " ++ text

def render : Notice → String
  | .starting => statusLine "Starting" title
  | .loading manifest => statusLine "Loading" ("manifest " ++ manifest.text)
  | .selecting selections => statusLine "Selecting" (Selection.renderAll selections)
  | .unmatched selection => "Warning: no benchmark named " ++ Text.quoted selection.render
  | .finished count =>
      statusLine "Finished" ("selecting " ++ toString count ++ " benchmarks")

end Notice

end BenchSuite
