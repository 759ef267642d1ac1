import BenchSuite.Selection.Pattern

/-!
# Selections

A selection asks to run the benchmarks of a pattern, or, with a dash in front of it, to skip them.
-/

namespace BenchSuite

/-- Whether the benchmarks of a selection are run or skipped. -/
inductive Operator
  | inclusion
  | exclusion
deriving DecidableEq, Repr

def Operator.sign : Operator → String
  | .inclusion => "+"
  | .exclusion => "-"

/-- The written form of a text under the operator: a dash goes before what is excluded. -/
def Operator.mark : Operator → String → String
  | .inclusion, text => text
  | .exclusion, text => "-" ++ text

/-- An entry of a selection list whose text is not interpreted. -/
structure Entry where
  operator : Operator
  text : String
deriving DecidableEq, Repr

def Entry.render (entry : Entry) : String :=
  entry.operator.mark entry.text

/-- An entry of a selection list together with the pattern that its text stands for. -/
structure Selection where
  operator : Operator
  text : String
  pattern : Pattern
deriving DecidableEq, Repr

namespace Selection

def isExclusion (selection : Selection) : Bool :=
  selection.operator == .exclusion

def render (selection : Selection) : String :=
  selection.operator.mark selection.text

def ofEntry (entry : Entry) : Except NameError Selection := do
  let pattern ← Pattern.parse entry.text
  pure ⟨entry.operator, entry.text, pattern⟩

end Selection

end BenchSuite
