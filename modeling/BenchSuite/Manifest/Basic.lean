import BenchSuite.Catalog
import BenchSuite.Selection.Expression

/-!
# Manifests and suites

A manifest is what an author declares: benchmarks with their tags, and groups defined by selections.
A suite is what a sound manifest stands for: the same benchmarks, together with the members of every
tag and group.  The group `all` holds every benchmark and cannot be declared; so does the group
`default`, unless the manifest declares it.
-/

namespace BenchSuite

/-- A benchmark and its tags, each of which is also a group. -/
structure Benchmark where
  name : String
  tags : List String := []
deriving DecidableEq, Repr

/-- What a manifest declares: the benchmarks in the order in which they are to be listed, and the
selection tokens that define each group. -/
structure Manifest where
  benchmarks : List Benchmark
  definitions : NameMap (List String) := ∅
deriving DecidableEq, Repr

/-- The benchmarks of a sound manifest in their order, with the position of each by its name and the
members of every tag and group. -/
structure Suite where
  benchmarks : List Benchmark
  index : NameMap Nat
  groups : Groups
deriving DecidableEq, Repr

namespace Suite

def catalog (suite : Suite) : Catalog :=
  ⟨suite.benchmarks.map Benchmark.name, suite.groups⟩

def hasBenchmark (suite : Suite) (name : String) : Bool :=
  suite.index.contains name

/-- The benchmark at the position that the index gives for a name. -/
def get? (suite : Suite) (name : String) : Option Benchmark := do
  suite.benchmarks[← suite.index.get? name]?

end Suite

def allGroup : String := "all"

/-- The group that is meant when nothing else is asked for. -/
def defaultGroup : String := "default"

/-- The defects of a manifest.  A cycle is reported with the links by way of which a group is
defined in terms of itself. -/
inductive ManifestError
  | malformedName (error : NameError)
  | duplicateBenchmark (name : String)
  | reservedGroup (name : String)
  | groupConflict (name : String)
  | unknownMember (group : String) (member : Selection)
  | groupCycle (group : String) (links : List String)
deriving DecidableEq, Repr

def ManifestError.message : ManifestError → String
  | .malformedName error => "Manifest name validation: " ++ error.message
  | .duplicateBenchmark name => "Benchmark `" ++ name ++ "` is defined more than once"
  | .reservedGroup name => "Group name `" ++ name ++ "` is reserved"
  | .groupConflict name => "`" ++ name ++ "` is defined both as a tag and as a group"
  | .unknownMember group member =>
      "Group `" ++ group ++ "` references unknown benchmark or group `" ++ member.render ++ "`"
  | .groupCycle group links =>
      "Group `" ++ group ++ "` is defined recursively: " ++ " -> ".intercalate links

end BenchSuite
