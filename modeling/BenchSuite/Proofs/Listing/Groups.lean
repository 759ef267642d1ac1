import BenchSuite.Proofs.Listing.Benchmarks

/-!
# Groups block by block

A listing of groups is a sequence of blocks, each of which is ended by an empty line: the name of a
group with the number of its members, and then a line for each member.  The names of groups hold
neither line breaks nor blanks, so that the listing can be read again.  It holds all that can be
known about the groups that have members, and nothing about those that have none.
-/

namespace BenchSuite

def Groups.hasMembers (groups : Groups) (name : String) : Bool :=
  (groups.get? name).any (!·.isEmpty)

namespace Listing

/-- What a block of a listing says: the name of a group, the number of its members and their
names. -/
structure Block where
  name : String
  count : Nat
  members : List String
deriving DecidableEq, Repr

/-- The name and the number that the first line of a block holds. -/
def heading? (line : List Char) : Option (String × Nat) := do
  let rest ← Text.behind? " (".toList (line.dropWhile (· ≠ ' '))
  let (count, rest) ← Text.number? rest
  if rest = "):".toList then some (String.ofList (line.takeWhile (· ≠ ' ')), count) else none

def block? : List (List Char) → Option Block
  | [] => none
  | heading :: items => do
      let (name, count) ← heading? heading
      let members ← items.mapM item?
      pure ⟨name, count, members⟩

/-- The blocks of a listing of groups. -/
def readGroups? (text : String) : Option (List Block) := do
  let lines ← Text.lines? text
  let blocks ← Text.ended? [] lines
  blocks.mapM block?

namespace Block

def ofGroup (group : String × NameSet) : Block :=
  ⟨group.1, group.2.size, group.2.toList⟩

def heading (block : Block) : List Char :=
  block.name.toList ++ (" (".toList ++ ((toString block.count).toList ++ "):".toList))

def lines (block : Block) : List (List Char) :=
  block.heading :: block.members.map itemLine

theorem ofGroup_injective : Function.Injective ofGroup := by
  rintro ⟨name, ⟨members, ascending⟩⟩ ⟨name', ⟨members', ascending'⟩⟩ same
  simp only [ofGroup, mk.injEq] at same
  obtain ⟨rfl, -, rfl⟩ := same
  rfl

/-- The names in the block are such that none of them can be taken for anything else. -/
structure Clean (block : Block) : Prop where
  name : IsTagSpelling block.name.toList
  members : ∀ member ∈ block.members, IsBenchmarkSpelling member.toList

variable {block : Block}

theorem Clean.heading? (clean : block.Clean) :
    Listing.heading? block.heading = some (block.name, block.count) := by
  have solid : ∀ c ∈ block.name.toList, decide (c ≠ ' ') = true := by
    intro c member
    rw [decide_eq_true_eq]
    rintro rfl
    exact clean.name.isBenchmarkSpelling.not_mem_of_isBlank (by decide) member
  have stops : "):".toList.head?.any Char.isDigit = false := by decide
  have number := Text.number?_toString block.count stops
  unfold Listing.heading? heading
  generalize (toString block.count).toList = digits at number ⊢
  rw [List.takeWhile_append_of_pos solid, List.dropWhile_append_of_pos solid]
  change (do
    let rest ← Text.behind? " (".toList (" (".toList ++ (digits ++ "):".toList))
    let (count, rest) ← Text.number? rest
    if rest = "):".toList then some (String.ofList (block.name.toList ++ []), count) else none) = _
  rw [Text.behind?_append, Option.bind_eq_bind, Option.bind_some, number, List.append_nil,
    String.ofList_toList]
  rfl

theorem Clean.block? (clean : block.Clean) : Listing.block? block.lines = some block := by
  have items := Text.mapM_map_eq_some fun name (_ : name ∈ block.members) => item?_itemLine name
  simp only [lines, Listing.block?, clean.heading?, items]
  rfl

theorem Clean.lineBreak_not_mem (clean : block.Clean) : ∀ line ∈ block.lines, '\n' ∉ line := by
  intro line listed
  rcases List.mem_cons.mp listed with rfl | item
  · have name := clean.name.isBenchmarkSpelling.not_mem_of_isBlank (c := '\n') (by decide)
    have digits := Text.not_mem_toString_of_not_isDigit (c := '\n') (by decide) block.count
    unfold heading
    simp only [List.mem_append, not_or]
    exact ⟨name, by decide, digits, by decide⟩
  · obtain ⟨name, member, rfl⟩ := List.mem_map.mp item
    exact lineBreak_not_mem_itemLine ((clean.members name member).not_mem_of_isBlank (by decide))

theorem nil_not_mem_lines : [] ∉ block.lines := by
  simp [lines, heading, itemLine]

end Block

theorem toList_group (name : String) (members : NameSet) :
    (group name members).toList =
      ((Block.ofGroup (name, members)).lines ++ [[]]).flatMap (· ++ ['\n']) := by
  unfold group Block.lines Block.heading Block.ofGroup
  generalize toString members.size = digits
  simp [List.flatMap_map, toList_line]

theorem toList_groups (groups : Groups) :
    (Listing.groups groups).toList =
      (((listedGroups groups).map fun group => (Block.ofGroup group).lines).flatMap
        (· ++ [[]])).flatMap (· ++ ['\n']) := by
  simp only [Listing.groups, String.toList_join, List.flatMap_map, toList_group, List.flatMap_assoc]

theorem readGroups?_groups {groups : Groups}
    (clean : ∀ group ∈ listedGroups groups, (Block.ofGroup group).Clean) :
    readGroups? (Listing.groups groups) = some ((listedGroups groups).map Block.ofGroup) := by
  have cleanBlocks : ∀ block ∈ (listedGroups groups).map Block.ofGroup, block.Clean :=
    List.forall_mem_map.mpr clean
  have written : (Listing.groups groups).toList =
      ((((listedGroups groups).map Block.ofGroup).map Block.lines).flatMap (· ++ [[]])).flatMap
        (· ++ ['\n']) := by
    rw [toList_groups, List.map_map]
    rfl
  generalize (listedGroups groups).map Block.ofGroup = blocks at cleanBlocks written ⊢
  have lines : Text.lines? (Listing.groups groups) =
      some ((blocks.map Block.lines).flatMap (· ++ [[]])) := by
    apply Text.lines?_of_toList written
    intro line listed
    simp only [List.mem_flatMap, List.mem_map, List.mem_append, List.mem_singleton] at listed
    obtain ⟨_, ⟨block, member, rfl⟩, listed | rfl⟩ := listed
    · exact (cleanBlocks block member).lineBreak_not_mem line listed
    · exact List.not_mem_nil
  have pieces : Text.ended? [] ((blocks.map Block.lines).flatMap (· ++ [[]])) =
      some (blocks.map Block.lines) := by
    apply Text.ended?_flatMap
    simpa using fun block _ => Block.nil_not_mem_lines
  have restored := Text.mapM_map_eq_some fun block member => (cleanBlocks block member).block?
  simp only [readGroups?, lines, pieces, restored, Option.bind_eq_bind, Option.bind_some]

theorem mem_listedGroups_iff {groups : Groups} {name : String} {members : NameSet} :
    (name, members) ∈ listedGroups groups ↔
      groups.get? name = some members ∧ members.isEmpty = false := by
  simp only [listedGroups, List.mem_filterMap, Option.map_eq_some_iff, Option.filter_eq_some_iff,
    Prod.mk.injEq, Bool.not_eq_true']
  constructor
  · rintro ⟨listed, -, members', ⟨found, nonempty⟩, rfl, rfl⟩
    exact ⟨found, nonempty⟩
  · rintro ⟨found, nonempty⟩
    refine ⟨name, ?_, members, ⟨found, nonempty⟩, rfl, rfl⟩
    have named : name ∈ groups.names := NameMap.mem_names_iff.mpr ⟨members, found⟩
    by_cases all : name = allGroup
    · simp [groupOrder, all]
    · by_cases default : name = defaultGroup
      · simp [groupOrder, default]
      · simp [groupOrder, all, default, named]

/-- The groups that have members are listed in the order of all groups. -/
theorem map_fst_listedGroups (groups : Groups) :
    (listedGroups groups).map Prod.fst = (groupOrder groups).filter groups.hasMembers := by
  rw [listedGroups, List.map_filterMap, ← List.filterMap_eq_filter]
  apply List.filterMap_congr
  intro name _
  cases found : groups.get? name with
  | none => simp [Groups.hasMembers, Option.guard, found]
  | some members =>
      cases empty : members.isEmpty <;> simp [Groups.hasMembers, Option.guard, found, empty]

theorem nodup_groupOrder (groups : Groups) : (groupOrder groups).Nodup := by
  have distinct : groups.names.Nodup := groups.ascending.imp String.ne_of_lt
  have rest := distinct.filter fun name => name ≠ allGroup ∧ name ≠ defaultGroup
  have differ : allGroup ≠ defaultGroup := by decide
  simpa [groupOrder, differ] using rest

/-- The blocks present the groups that have members: one block each and none for another group, the
group of all benchmarks first, then the default group, and then the others by name. -/
structure Presents (blocks : List Block) (groups : Groups) : Prop where
  distinct : (blocks.map Block.name).Nodup
  order : ∃ others,
    blocks.map Block.name = [allGroup, defaultGroup].filter groups.hasMembers ++ others ∧
      others.Pairwise (· < ·) ∧ allGroup ∉ others ∧ defaultGroup ∉ others
  mem_iff : ∀ block, block ∈ blocks ↔ ∃ members, groups.get? block.name = some members ∧
    members.isEmpty = false ∧ block.members = members.toList ∧ block.count = members.size
  count : ∀ block ∈ blocks, block.count = block.members.length
  ascending : ∀ block ∈ blocks, block.members.Pairwise (· < ·)

theorem presents_listedGroups (groups : Groups) :
    Presents ((listedGroups groups).map Block.ofGroup) groups := by
  have names : ((listedGroups groups).map Block.ofGroup).map Block.name =
      (groupOrder groups).filter groups.hasMembers := by
    rw [List.map_map, ← map_fst_listedGroups]
    rfl
  refine
    { distinct := names ▸ (nodup_groupOrder groups).filter _
      order := ?_
      mem_iff := ?_
      count := List.forall_mem_map.mpr fun _ _ => rfl
      ascending := List.forall_mem_map.mpr fun group _ => group.2.ascending }
  · refine ⟨(groups.names.filter fun name => name ≠ allGroup && name ≠ defaultGroup).filter
      groups.hasMembers, ?_, ?_, ?_, ?_⟩
    · rw [names, ← List.filter_append]
      rfl
    · exact (groups.ascending.filter _).filter _
    · simp
    · simp
  · intro block
    simp only [List.mem_map, Prod.exists, mem_listedGroups_iff]
    constructor
    · rintro ⟨name, members, ⟨found, nonempty⟩, rfl⟩
      exact ⟨members, found, nonempty, rfl, rfl⟩
    · rintro ⟨members, found, nonempty, same, count⟩
      refine ⟨block.name, members, ⟨found, nonempty⟩, ?_⟩
      rw [Block.ofGroup, ← same, ← count]

end Listing

namespace Manifest

variable {manifest : Manifest} {suite : Suite}

theorem clean_of_suite (loads : manifest.suite = .ok suite) :
    ∀ group ∈ Listing.listedGroups suite.groups, (Listing.Block.ofGroup group).Clean := by
  obtain ⟨registry, definitions, becomes⟩ := exists_becomes loads
  rintro ⟨name, members⟩ listed
  obtain ⟨found, -⟩ := Listing.mem_listedGroups_iff.mp listed
  have named : name ∈ suite.groups.names := NameMap.mem_names_iff.mpr ⟨members, found⟩
  refine ⟨NameRule.strict_allows_iff.mp (becomes.groups_allowed name named), ?_⟩
  intro member belongs
  have registered := becomes.members_registered name member ⟨members, found, belongs⟩
  exact becomes.isBenchmarkSpelling (becomes.catalog_benchmarks ▸ registered)

/-- The listing of the groups of a suite can be read again, and what is read presents the groups
that have members.  So two suites with the same listing have the same groups with the same members,
but for groups that have none. -/
theorem groups_of_listing (loads : manifest.suite = .ok suite) :
    ∃ blocks, Listing.readGroups? (Listing.groups suite.groups) = some blocks ∧
      Listing.Presents blocks suite.groups ∧
      ∀ (other : Manifest) (suite' : Suite), other.suite = .ok suite' →
        Listing.groups suite'.groups = Listing.groups suite.groups →
        ∀ name members, members.isEmpty = false →
          (suite'.groups.get? name = some members ↔ suite.groups.get? name = some members) := by
  have read := Listing.readGroups?_groups (clean_of_suite loads)
  refine ⟨_, read, Listing.presents_listedGroups suite.groups, ?_⟩
  intro other suite' loads' same name members nonempty
  have read' := Listing.readGroups?_groups (clean_of_suite loads')
  rw [same, read] at read'
  have listed : Listing.listedGroups suite.groups = Listing.listedGroups suite'.groups :=
    Listing.Block.ofGroup_injective.list_map (Option.some.inj read')
  have listedAlike : (name, members) ∈ Listing.listedGroups suite'.groups ↔
      (name, members) ∈ Listing.listedGroups suite.groups := by
    rw [listed]
  simpa only [Listing.mem_listedGroups_iff, nonempty, and_true] using listedAlike

/-- A manifest with tags, its own default group, and a group without members. -/
def lettered : Manifest where
  benchmarks := [⟨"b", ["zeta"]⟩, ⟨"a", ["alpha"]⟩]
  definitions := NameMap.ofList [("default", ["b"]), ("empty", [])]

def letteredListing : String :=
  "all (2):\n- a\n- b\n\ndefault (1):\n- b\n\nalpha (1):\n- a\n\nzeta (1):\n- b\n\n"

/-- In the listing, the default group stands behind the group of all benchmarks, and the group
without members is missing. -/
theorem groups_of_lettered_listing :
    ∃ suite, lettered.suite = .ok suite ∧ "empty" ∈ suite.groups.names ∧
      Listing.groups suite.groups = letteredListing ∧
      ∃ blocks, Listing.readGroups? (Listing.groups suite.groups) = some blocks ∧
        Listing.Presents blocks suite.groups ∧
        blocks = [⟨"all", 2, ["a", "b"]⟩, ⟨"default", 1, ["b"]⟩, ⟨"alpha", 1, ["a"]⟩,
          ⟨"zeta", 1, ["b"]⟩] := by
  obtain ⟨suite, loads⟩ : ∃ suite, lettered.suite = .ok suite := exists_eq_ok (by decide +kernel)
  have declared : suite.groups.names.contains "empty" = true := by
    apply eq_of_map_eq_ok (fun suite => suite.groups.names.contains "empty") loads
    decide +kernel
  have listing : Listing.groups suite.groups = letteredListing := by
    apply eq_of_map_eq_ok (fun suite => Listing.groups suite.groups) loads
    decide +kernel
  obtain ⟨blocks, read, presents, -⟩ := groups_of_listing loads
  refine ⟨suite, loads, List.contains_iff_mem.mp declared, listing, blocks, read, presents, ?_⟩
  have evaluated : Listing.readGroups? (Listing.groups suite.groups) =
      some [⟨"all", 2, ["a", "b"]⟩, ⟨"default", 1, ["b"]⟩, ⟨"alpha", 1, ["a"]⟩,
        ⟨"zeta", 1, ["b"]⟩] := by
    rw [listing]
    decide +kernel
  exact Option.some.inj (read.symm.trans evaluated)

end Manifest

end BenchSuite
