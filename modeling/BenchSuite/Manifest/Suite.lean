import BenchSuite.Manifest.Definitions

/-!
# From manifest to suite

A manifest is checked from front to back: first the benchmarks with their tags, then the names and
selections of the definitions, and last the definitions as a whole, when the members of the groups
are worked out.  The first defect met is reported.
-/

namespace BenchSuite

namespace Manifest

def names (manifest : Manifest) : List String :=
  manifest.benchmarks.map Benchmark.name

/-- The positions of the names registered so far, and the benchmarks that carry each tag. -/
structure Registry where
  index : NameMap Nat := ∅
  groups : Groups := ∅

def checkName (rule : NameRule) (name : String) : Except ManifestError Unit := do
  let _ ← (rule.check name).mapError .malformedName

/-- Checks the name of a tag or group, which must leave the group of all benchmarks alone. -/
def checkGroupName (name : String) : Except ManifestError Unit := do
  checkName .strict name
  if name = allGroup then
    throw (.reservedGroup name)

def registerTag (benchmark : String) (groups : Groups) (tag : String) :
    Except ManifestError Groups := do
  checkGroupName tag
  pure (groups.insert tag (((groups.get? tag).getD ∅).insert benchmark))

def Registry.register (registry : Registry) (entry : Benchmark × Nat) :
    Except ManifestError Registry := do
  let (benchmark, position) := entry
  checkName .numericStart benchmark.name
  if registry.index.contains benchmark.name then
    throw (.duplicateBenchmark benchmark.name)
  let groups ← benchmark.tags.foldlM (registerTag benchmark.name) registry.groups
  pure ⟨registry.index.insert benchmark.name position, groups⟩

/-- Reads the definition of a group, which must not be a tag as well. -/
def readDefinition (tagGroups : Groups) (definitions : Definitions)
    (definition : String × List String) : Except ManifestError Definitions := do
  let (name, tokens) := definition
  checkGroupName name
  if tagGroups.contains name then
    throw (.groupConflict name)
  let selections ← (Selection.parseTokens tokens).mapError .malformedName
  pure (definitions.insert name selections)

/-- The tag groups and the two groups that need no declaration. -/
def implicitGroups (benchmarks : List String) (definitions : Definitions) (tagGroups : Groups) :
    Groups :=
  let all := NameSet.ofList benchmarks
  let groups :=
    if tagGroups.contains defaultGroup || definitions.contains defaultGroup then tagGroups
    else tagGroups.insert defaultGroup all
  groups.insert allGroup all

/-- The suite that a manifest declares, if it has no defects. -/
def suite (manifest : Manifest) : Except ManifestError Suite := do
  let registry ← manifest.benchmarks.zipIdx.foldlM Registry.register {}
  let definitions ← manifest.definitions.entries.foldlM (readDefinition registry.groups) ∅
  let groups ← definitions.resolveAll manifest.names
    (implicitGroups manifest.names definitions registry.groups)
  pure ⟨manifest.benchmarks, registry.index, groups⟩

end Manifest

end BenchSuite
