import BenchSuite.Manifest.Basic

/-!
# Listings

The benchmarks of a selection are listed with their number below them.  The groups of a catalog are
listed with their members, leaving out empty groups: the group of all benchmarks comes first, then
the default group, and then the others by name.
-/

namespace BenchSuite

namespace Listing

def line (name : String) : String :=
  "- " ++ name ++ "\n"

def benchmarks (names : List String) : String :=
  String.join (names.map line) ++ "\nTotal: " ++ toString names.length ++ " benchmarks\n"

def group (name : String) (members : NameSet) : String :=
  name ++ " (" ++ toString members.size ++ "):\n" ++ String.join (members.toList.map line) ++ "\n"

/-- The names of the groups in the order in which they are listed. -/
def groupOrder (groups : Groups) : List String :=
  allGroup :: defaultGroup ::
    groups.names.filter fun name => name ≠ allGroup && name ≠ defaultGroup

/-- The groups that are listed: those that have members. -/
def listedGroups (groups : Groups) : List (String × NameSet) :=
  (groupOrder groups).filterMap fun name =>
    ((groups.get? name).filter (!·.isEmpty)).map fun members => (name, members)

def groups (groups : Groups) : String :=
  String.join ((listedGroups groups).map fun (name, members) => group name members)

end Listing

end BenchSuite
