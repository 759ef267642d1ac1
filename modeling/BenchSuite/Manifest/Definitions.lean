import BenchSuite.Manifest.Basic
import BenchSuite.Selection.Resolution

/-!
# The members of defined groups

A definition is a list of selections and stands for the benchmarks that they select; the empty
definition stands for the empty group.  Since a definition may refer to other defined groups, these
are resolved first, depth first and each of them once.  The chain of groups that are being resolved
never repeats a name: a group met again on the chain is defined in terms of itself.  Every step down
the chain therefore leaves fewer definitions outside it, which bounds the depth of the search.
-/

namespace BenchSuite

abbrev Definitions := NameMap (List Selection)

namespace Definitions

/-- The defined groups that a list of selections refers to.  A name that is the name of a benchmark
is no reference to a group. -/
def references (definitions : Definitions) (benchmarks : List String)
    (selections : List Selection) : List String :=
  (selections.filter fun selection =>
    selection.pattern.isTag || !benchmarks.contains selection.pattern.identifier)
    |>.map (·.pattern.identifier)
    |>.filter definitions.contains

/-- The members that a definition stands for, given the groups it refers to. -/
def members (benchmarks : List String) (groups : Groups) (group : String)
    (selections : List Selection) : Except ManifestError NameSet :=
  if selections.isEmpty then .ok ∅
  else
    let resolution := Catalog.resolve ⟨benchmarks, groups⟩ selections
    match resolution.unmatched with
    | [] => .ok (NameSet.ofList resolution.benchmarks)
    | member :: _ => .error (.unknownMember group member)

def outside (definitions : Definitions) (chain : List String) : List String :=
  definitions.names.filter (· ∉ chain)

/-- A definition that goes onto the chain leaves fewer outside it. -/
theorem length_outside_lt {definitions : Definitions} {chain : List String} {name : String}
    {selections : List Selection} (fresh : name ∉ chain)
    (defined : definitions.get? name = some selections) :
    (definitions.outside (chain ++ [name])).length < (definitions.outside chain).length := by
  have listed : name ∈ definitions.outside chain := by
    have isSome : (definitions.get? name).isSome := by simp [defined]
    simp [outside, NameMap.get?_isSome_iff.mp isSome, fresh]
  have split : definitions.outside (chain ++ [name]) =
      (definitions.outside chain).filter (· ≠ name) := by
    simp only [outside, List.filter_filter]
    congr 1
    funext other
    by_cases same : other = name <;> simp [same]
  rw [split]
  exact List.length_filter_lt_length_iff_exists.mpr ⟨name, listed, by simp⟩

/-- Resolves a group, and before it the groups that its definition refers to, unless that has been
done.  The chain holds the groups whose resolution waits for this one. -/
def resolveGroup (definitions : Definitions) (benchmarks chain : List String) (groups : Groups)
    (name : String) : Except ManifestError Groups :=
  if groups.contains name then .ok groups
  else if _fresh : name ∈ chain then
    .error (.groupCycle name (chain.dropWhile (· ≠ name) ++ [name]))
  else
    match _defined : definitions.get? name with
    | none => .ok groups
    | some selections => do
        let groups ← (definitions.references benchmarks selections).foldlM
          (fun groups reference =>
            resolveGroup definitions benchmarks (chain ++ [name]) groups reference) groups
        let members ← members benchmarks groups name selections
        pure (groups.insert name members)
termination_by (definitions.outside chain).length
decreasing_by exact length_outside_lt _fresh _defined

/-- Resolves every defined group, in the order of the names. -/
def resolveAll (definitions : Definitions) (benchmarks : List String) (groups : Groups) :
    Except ManifestError Groups :=
  definitions.names.foldlM (resolveGroup definitions benchmarks []) groups

end Definitions

end BenchSuite
