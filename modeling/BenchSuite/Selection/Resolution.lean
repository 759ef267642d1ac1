import BenchSuite.Catalog

/-!
# Resolving selections

If some selection includes, only what is included is selected, and otherwise every benchmark is.
What is excluded is taken away in both cases, wherever the exclusion stands.  The selected
benchmarks come in the order of the catalog.  Selections that mean nothing are reported beside them;
such an inclusion still restricts the result.
-/

namespace BenchSuite

/-- The benchmarks that a list of selections asks for, in the order of the catalog, and the
selections that mean nothing in the catalog, in their own order. -/
structure Resolution where
  benchmarks : List String := []
  unmatched : List Selection := []
deriving DecidableEq, Repr

/-- What the selections read so far ask for.  It is restricted once some selection includes, and
then only included benchmarks count. -/
structure Tally where
  restricted : Bool := false
  included : NameSet := ∅
  excluded : NameSet := ∅
  unmatched : List Selection := []

namespace Tally

def apply (tally : Tally) (members : List String) : Operator → Tally
  | .inclusion =>
      { tally with restricted := true, included := tally.included.insertAll members }
  | .exclusion => { tally with excluded := tally.excluded.insertAll members }

def count (catalog : Catalog) (tally : Tally) (selection : Selection) : Tally :=
  match catalog.matched? selection.pattern with
  | some members => tally.apply members.toList selection.operator
  | none =>
      { tally with unmatched := tally.unmatched ++ [selection] }.apply [] selection.operator

def selects (tally : Tally) (benchmark : String) : Bool :=
  (!tally.restricted || benchmark ∈ tally.included) && benchmark ∉ tally.excluded

end Tally

def Catalog.resolve (catalog : Catalog) (selections : List Selection) : Resolution :=
  let tally := selections.foldl (Tally.count catalog) {}
  { benchmarks := catalog.benchmarks.filter tally.selects
    unmatched := tally.unmatched }

end BenchSuite
