import BenchSuite.Selection.Resolution
import BenchSuite.Selection.Expression

/-!
# Guarding against negated groups

A guard refuses selections that an older way of selecting could not express: names that are no
names, and exclusions of whole groups.  It looks at the selections before they are resolved and
changes nothing about the outcome of those it lets pass.
-/

namespace BenchSuite

/-- Which exclusions of groups are refused: those of names that are names of groups, and those of
tags. -/
structure NegationGuard where
  groupNames : Bool := true
  tags : Bool := false
deriving DecidableEq, Repr

inductive Refusal
  | notConcrete
  | negatedGroup
deriving DecidableEq, Repr

def Refusal.reason : Refusal → String
  | .notConcrete => "only benchmark names and tags are supported"
  | .negatedGroup => "negative groups not supported"

inductive SelectionError
  | malformed (error : NameError)
  | unsupported (selection : Selection) (refusal : Refusal)
deriving DecidableEq, Repr

def SelectionError.message : SelectionError → String
  | .malformed error => error.message
  | .unsupported selection refusal =>
      "Unsupported selection `" ++ selection.render ++ "`: " ++ refusal.reason

/-- The pattern holds a name that its kind allows. -/
def Pattern.isConcrete : Pattern → Bool
  | .name benchmark => (NameRule.numericStart.fault? benchmark).isNone
  | .tag group => (NameRule.strict.fault? group).isNone

namespace NegationGuard

/-- The exclusion of this pattern is refused where the pattern names a group. -/
def watches (guard : NegationGuard) : Pattern → Bool
  | .name _ => guard.groupNames
  | .tag _ => guard.tags

def refusal? (guard : NegationGuard) (catalog : Catalog) (selection : Selection) :
    Option Refusal :=
  if !selection.pattern.isConcrete then some .notConcrete
  else if selection.isExclusion && guard.watches selection.pattern &&
      catalog.hasGroup selection.pattern.identifier then
    some .negatedGroup
  else none

/-- Refuses the first selection that the guard does not let pass. -/
def check (guard : NegationGuard) (catalog : Catalog) (selections : List Selection) :
    Except SelectionError Unit :=
  selections.forM fun selection =>
    match guard.refusal? catalog selection with
    | some refusal => .error (.unsupported selection refusal)
    | none => .ok ()

end NegationGuard

namespace Catalog

/-- Resolves a list of selections that a guard, if there is one, lets pass. -/
def resolveGuarded (catalog : Catalog) (guard : Option NegationGuard)
    (selections : List Selection) : Except SelectionError Resolution := do
  if let some guard := guard then
    guard.check catalog selections
  pure (catalog.resolve selections)

def resolveText (catalog : Catalog) (guard : Option NegationGuard) (expression : String) :
    Except SelectionError Resolution := do
  let selections ← (Selection.parse expression).mapError .malformed
  catalog.resolveGuarded guard selections

end Catalog

end BenchSuite
