import BenchSuite.Names.NameMap
import BenchSuite.Selection.Basic

/-!
# Catalogs

A catalog is what selections are resolved against: the registered benchmarks in their order, and the
members of every group and tag.  A name means the benchmark of that name where there is one, and the
group of that name otherwise; a tag always means the group.
-/

namespace BenchSuite

/-- The members of every group and tag, by its name. -/
abbrev Groups := NameMap NameSet

/-- The registered benchmarks and groups. -/
structure Catalog where
  benchmarks : List String
  groups : Groups
deriving DecidableEq, Repr

namespace Catalog

def hasBenchmark (catalog : Catalog) (name : String) : Bool :=
  catalog.benchmarks.contains name

def hasGroup (catalog : Catalog) (name : String) : Bool :=
  catalog.groups.contains name

/-- The benchmarks that a pattern means, if it means anything. -/
def matched? (catalog : Catalog) : Pattern → Option NameSet
  | .name benchmark =>
      if catalog.hasBenchmark benchmark then some (NameSet.ofList [benchmark])
      else catalog.groups.get? benchmark
  | .tag group => catalog.groups.get? group

end Catalog

end BenchSuite
