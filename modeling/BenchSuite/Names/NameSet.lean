/-!
# Finite sets of names

A set of names is kept as the strictly ascending list of its members, in the order of their code
points.  Two sets with the same members are therefore the same list, and listing a set needs no
sorting.
-/

namespace BenchSuite

/-- Names inserted into an ascending list, once each. -/
def insertName (name : String) : List String → List String
  | [] => [name]
  | head :: tail =>
      if name < head then name :: head :: tail
      else if head < name then head :: insertName name tail
      else head :: tail

@[simp]
theorem mem_insertName {name other : String} {names : List String} :
    other ∈ insertName name names ↔ other = name ∨ other ∈ names := by
  induction names with
  | nil => simp [insertName]
  | cons head tail ih =>
      simp only [insertName]
      split
      · simp
      · split
        · simp only [List.mem_cons, ih]
          exact or_left_comm
        · rename_i notBefore notAfter
          have same : name = head :=
            String.le_antisymm (String.not_lt.mp notAfter) (String.not_lt.mp notBefore)
          simp [same]

theorem pairwise_insertName {name : String} {names : List String}
    (ascending : names.Pairwise (· < ·)) : (insertName name names).Pairwise (· < ·) := by
  induction names with
  | nil => simp [insertName]
  | cons head tail ih =>
      obtain ⟨below, ascendingTail⟩ := List.pairwise_cons.mp ascending
      simp only [insertName]
      split
      · rename_i before
        refine List.pairwise_cons.mpr ⟨fun other member => ?_, ascending⟩
        rcases List.mem_cons.mp member with rfl | member
        · exact before
        · exact String.lt_trans before (below other member)
      · split
        · rename_i after
          refine List.pairwise_cons.mpr ⟨fun other member => ?_, ih ascendingTail⟩
          rcases mem_insertName.mp member with rfl | member
          · exact after
          · exact below other member
        · exact ascending

/-- Lists that are ascending in some key and have the same elements are equal. -/
theorem eq_of_ascending {α : Type} (key : α → String) {first second : List α}
    (ascending : first.Pairwise fun left right => key left < key right)
    (ascending' : second.Pairwise fun left right => key left < key right)
    (same : ∀ element, element ∈ first ↔ element ∈ second) : first = second := by
  have distinct {list : List α} (ascending : list.Pairwise fun left right => key left < key right) :
      list.Nodup := by
    apply ascending.imp
    rintro element _ less rfl
    exact String.lt_irrefl (key element) less
  have permuted : first.Perm second :=
    (List.perm_ext_iff_of_nodup (distinct ascending) (distinct ascending')).mpr same
  refine permuted.eq_of_pairwise ?_ ascending ascending'
  intro left right _ _ less greater
  exact (String.lt_irrefl _ (String.lt_trans less greater)).elim

/-- A finite set of names, listed in ascending order. -/
structure NameSet where
  toList : List String
  ascending : toList.Pairwise (· < ·)
deriving DecidableEq, Repr

namespace NameSet

def empty : NameSet :=
  ⟨[], .nil⟩

instance : Inhabited NameSet :=
  ⟨empty⟩

instance : EmptyCollection NameSet :=
  ⟨empty⟩

instance : Membership String NameSet :=
  ⟨fun names name => name ∈ names.toList⟩

instance (name : String) (names : NameSet) : Decidable (name ∈ names) :=
  inferInstanceAs (Decidable (name ∈ names.toList))

def insert (names : NameSet) (name : String) : NameSet :=
  ⟨insertName name names.toList, pairwise_insertName names.ascending⟩

def insertAll (names : NameSet) (more : List String) : NameSet :=
  more.foldl insert names

def ofList (names : List String) : NameSet :=
  empty.insertAll names

def size (names : NameSet) : Nat :=
  names.toList.length

def isEmpty (names : NameSet) : Bool :=
  names.toList.isEmpty

theorem mem_toList {names : NameSet} {name : String} : name ∈ names.toList ↔ name ∈ names :=
  Iff.rfl

@[simp]
theorem not_mem_empty (name : String) : ¬ name ∈ empty :=
  List.not_mem_nil

@[simp]
theorem not_mem_emptyCollection (name : String) : ¬ name ∈ (∅ : NameSet) :=
  List.not_mem_nil

@[simp]
theorem mem_insert {names : NameSet} {name other : String} :
    other ∈ names.insert name ↔ other = name ∨ other ∈ names :=
  mem_insertName

@[simp]
theorem mem_insertAll {names : NameSet} {more : List String} {name : String} :
    name ∈ names.insertAll more ↔ name ∈ names ∨ name ∈ more := by
  induction more generalizing names with
  | nil => simp [insertAll]
  | cons head tail ih =>
      have step : names.insertAll (head :: tail) = (names.insert head).insertAll tail := rfl
      rw [step, ih, mem_insert, List.mem_cons]
      exact or_assoc.trans or_left_comm

@[simp]
theorem mem_ofList {names : List String} {name : String} : name ∈ ofList names ↔ name ∈ names := by
  simp [ofList]

/-- Sets with the same members are equal. -/
theorem eq_of_mem_iff {first second : NameSet} (same : ∀ name, name ∈ first ↔ name ∈ second) :
    first = second := by
  have members : first.toList = second.toList :=
    eq_of_ascending (fun name => name) first.ascending second.ascending same
  cases first
  cases second
  simpa using members

theorem toList_eq_nil_iff {names : NameSet} : names.toList = [] ↔ names = ∅ := by
  constructor
  · intro none
    apply eq_of_mem_iff
    intro name
    rw [← mem_toList, none]
    exact iff_of_false List.not_mem_nil (not_mem_emptyCollection name)
  · rintro rfl
    rfl

end NameSet

end BenchSuite
