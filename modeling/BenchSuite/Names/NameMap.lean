import BenchSuite.Names.NameSet

/-!
# Finite maps from names

A map from names is kept as the list of its entries in strictly ascending order of their names, so
that every name has one entry at most and the entries are listed in the order of code points.
-/

namespace BenchSuite

variable {α : Type}

/-- An entry put into an ascending list, in the place of an earlier one of the same name. -/
def insertEntry (name : String) (value : α) : List (String × α) → List (String × α)
  | [] => [(name, value)]
  | head :: tail =>
      if name < head.1 then (name, value) :: head :: tail
      else if head.1 < name then head :: insertEntry name value tail
      else (name, value) :: tail

theorem map_fst_insertEntry (name : String) (value : α) (entries : List (String × α)) :
    (insertEntry name value entries).map Prod.fst = insertName name (entries.map Prod.fst) := by
  induction entries with
  | nil => rfl
  | cons head tail ih =>
      simp only [insertEntry, insertName, List.map_cons]
      split
      · rfl
      · split
        · simp [ih]
        · rename_i notBefore notAfter
          have same : name = head.1 :=
            String.le_antisymm (String.not_lt.mp notAfter) (String.not_lt.mp notBefore)
          simp [same]

/-- A finite map from names, whose entries are listed in ascending order of their names. -/
structure NameMap (α : Type) where
  entries : List (String × α)
  ascending : (entries.map Prod.fst).Pairwise (· < ·)
deriving DecidableEq, Repr

namespace NameMap

theorem ascending_nil : (([] : List (String × α)).map Prod.fst).Pairwise (· < ·) :=
  .nil

def empty : NameMap α :=
  ⟨[], ascending_nil⟩

instance : Inhabited (NameMap α) :=
  ⟨empty⟩

instance : EmptyCollection (NameMap α) :=
  ⟨empty⟩

def names (map : NameMap α) : List String :=
  map.entries.map Prod.fst

def get? (map : NameMap α) (name : String) : Option α :=
  (map.entries.find? fun entry => entry.1 == name).map Prod.snd

def contains (map : NameMap α) (name : String) : Bool :=
  map.names.contains name

/-- The map in which the name has the value, and every other name what it had. -/
def insert (map : NameMap α) (name : String) (value : α) : NameMap α :=
  ⟨insertEntry name value map.entries, by
    rw [map_fst_insertEntry]
    exact pairwise_insertName map.ascending⟩

/-- The map of the entries of a list; of several entries of one name the last one counts. -/
def ofList (entries : List (String × α)) : NameMap α :=
  entries.foldl (fun map entry => map.insert entry.1 entry.2) empty

@[simp]
theorem get?_empty (name : String) : (empty : NameMap α).get? name = none :=
  rfl

@[simp]
theorem get?_emptyCollection (name : String) : (∅ : NameMap α).get? name = none :=
  rfl

@[simp]
theorem mem_names_insert {map : NameMap α} {name other : String} {value : α} :
    other ∈ (map.insert name value).names ↔ other = name ∨ other ∈ map.names := by
  simp [insert, names, map_fst_insertEntry]

theorem contains_iff_mem_names {map : NameMap α} {name : String} :
    map.contains name ↔ name ∈ map.names := by
  simp [contains]

theorem find?_insertEntry_self (name : String) (value : α) (entries : List (String × α)) :
    (insertEntry name value entries).find? (fun entry => entry.1 == name) = some (name, value) := by
  induction entries with
  | nil => simp [insertEntry]
  | cons head tail ih =>
      simp only [insertEntry]
      split
      · simp
      · split
        · rename_i after
          have differs : (head.1 == name) = false := by
            simp only [beq_eq_false_iff_ne, ne_eq]
            rintro rfl
            exact String.lt_irrefl _ after
          simp [differs, ih]
        · simp

theorem find?_insertEntry_of_ne {name other : String} (value : α) (differs : other ≠ name)
    (entries : List (String × α)) :
    (insertEntry name value entries).find? (fun entry => entry.1 == other) =
      entries.find? (fun entry => entry.1 == other) := by
  have differs' : (name == other) = false := by simpa using differs.symm
  induction entries with
  | nil => simp [insertEntry, differs']
  | cons head tail ih =>
      simp only [insertEntry]
      split
      · simp [List.find?_cons, differs']
      · split
        · simp only [List.find?_cons, ih]
        · rename_i notBefore notAfter
          have same : head.1 = name :=
            String.le_antisymm (String.not_lt.mp notBefore) (String.not_lt.mp notAfter)
          simp [differs', same]

@[simp]
theorem get?_insert_self (map : NameMap α) (name : String) (value : α) :
    (map.insert name value).get? name = some value := by
  simp [insert, get?, find?_insertEntry_self]

theorem get?_insert_of_ne (map : NameMap α) {name other : String} (value : α)
    (differs : other ≠ name) : (map.insert name value).get? other = map.get? other := by
  simp [insert, get?, find?_insertEntry_of_ne value differs]

theorem get?_insert (map : NameMap α) (name other : String) (value : α) :
    (map.insert name value).get? other = if other = name then some value else map.get? other := by
  split
  · rename_i same
    rw [same, get?_insert_self]
  · rename_i differs
    exact get?_insert_of_ne map value differs

theorem get?_isSome_iff {map : NameMap α} {name : String} :
    (map.get? name).isSome ↔ name ∈ map.names := by
  simp [get?, names]

theorem mem_names_iff {map : NameMap α} {name : String} :
    name ∈ map.names ↔ ∃ value, map.get? name = some value := by
  rw [← get?_isSome_iff, Option.isSome_iff_exists]

theorem get?_eq_none_iff {map : NameMap α} {name : String} :
    map.get? name = none ↔ name ∉ map.names := by
  rw [← get?_isSome_iff, Bool.not_eq_true, Option.isSome_eq_false_iff, Option.isNone_iff_eq_none]

theorem find?_eq_some_of_mem {entries : List (String × α)}
    (ascending : (entries.map Prod.fst).Pairwise (· < ·)) {name : String} {value : α}
    (member : (name, value) ∈ entries) :
    entries.find? (fun entry => entry.1 == name) = some (name, value) := by
  induction entries with
  | nil => cases member
  | cons head tail ih =>
      obtain ⟨below, ascendingTail⟩ := List.pairwise_cons.mp ascending
      rcases List.mem_cons.mp member with rfl | member
      · simp
      · have differs : (head.1 == name) = false := by
          have before := below name (List.mem_map.mpr ⟨_, member, rfl⟩)
          simp only [beq_eq_false_iff_ne, ne_eq]
          rintro rfl
          exact String.lt_irrefl _ before
        rw [List.find?_cons, differs]
        exact ih ascendingTail member

theorem mem_entries_iff {map : NameMap α} {name : String} {value : α} :
    (name, value) ∈ map.entries ↔ map.get? name = some value := by
  constructor
  · intro member
    rw [get?, find?_eq_some_of_mem map.ascending member]
    rfl
  · intro found
    obtain ⟨entry, search, rfl⟩ := Option.map_eq_some_iff.mp found
    have same : entry.1 = name := by simpa using List.find?_some search
    rw [← same]
    exact List.mem_of_find?_eq_some search

/-- Maps that give every name the same value are equal. -/
theorem eq_of_get?_eq {first second : NameMap α}
    (same : ∀ name, first.get? name = second.get? name) : first = second := by
  have entries : first.entries = second.entries := by
    apply eq_of_ascending Prod.fst
    · exact List.pairwise_map.mp first.ascending
    · exact List.pairwise_map.mp second.ascending
    · rintro ⟨name, value⟩
      rw [mem_entries_iff, mem_entries_iff, same]
  cases first
  cases second
  simpa using entries

end NameMap

end BenchSuite
