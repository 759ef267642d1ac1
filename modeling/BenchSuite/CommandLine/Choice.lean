import BenchSuite.Selection.Expression
import BenchSuite.Text.Lowercase

/-!
# Chosen benchmarks and environment variables

Two values of the command line are lists in the manner of selection expressions.  The choice of
benchmarks is an expression in small letters, or a word of its own for no benchmarks at all.  The
environment variables are names of any form, none of which may be excluded.
-/

namespace BenchSuite

inductive Choice
  | nothing
  | selections (selections : List Selection)
deriving DecidableEq, Repr

namespace Choice

/-- The word for no benchmarks at all, in capital letters. -/
def nothingWord : String := "<NONE>"

/-- The choice of a user who does not choose: the default group. -/
def standard : Choice := .selections [⟨.inclusion, "<default>", .tag "default"⟩]

def parse (text : String) : Except NameError Choice :=
  if text = nothingWord then .ok .nothing
  else .selections <$> Selection.parse (Text.lowercase text)

def isNothing : Choice → Bool
  | .nothing => true
  | .selections _ => false

end Choice

structure ExcludedVariable where
  name : String
deriving DecidableEq, Repr

def ExcludedVariable.message (error : ExcludedVariable) : String :=
  "Environment variables cannot be excluded: `-" ++ error.name ++ "`"

def variableOfEntry (entry : Entry) : Except ExcludedVariable String :=
  match entry.operator with
  | .inclusion => .ok entry.text
  | .exclusion => .error ⟨entry.text⟩

def parseVariables (text : String) : Except ExcludedVariable (List String) :=
  Entry.buildAll variableOfEntry (tokens text)

end BenchSuite
