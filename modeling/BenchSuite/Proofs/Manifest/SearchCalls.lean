import BenchSuite.Proofs.Manifest.Checking
import BenchSuite.Proofs.Manifest.SearchRecord
import Mathlib.Data.List.Perm.Subperm

/-!
# The calls of the search

Every call that the search makes is in order.  Its chain goes from definition to definition along
references, repeats none of them, and holds groups only that have no members yet; so the chain can
be no longer than the list of definitions.  However a call ends, the groups that were there have
kept their members, and no group has been given its members twice.  A call that succeeds leaves the
chain as it found it, and the group that it was made for among the groups, with all that the
definition of that group refers to.
-/

namespace BenchSuite

namespace Definitions

variable {definitions : Definitions} {benchmarks chain : List String} {base groups : Groups}
  {name : String} {inner : String → SearchState → SearchOutcome}

/-- A group is asked for at the end of a chain of definitions, each of which refers to the next and
waits for its own members. -/
structure Chained (definitions : Definitions) (benchmarks chain : List String) (groups : Groups)
    (name : String) : Prop where
  distinct : chain.Nodup
  defined : ∀ link ∈ chain, link ∈ definitions.names
  unresolved : ∀ link ∈ chain, link ∉ groups.names
  linked : (chain ++ [name]).IsChain (definitions.Refers benchmarks)
  requested : name ∈ definitions.names

/-- What can be said of every call. -/
structure Call.InOrder (definitions : Definitions) (benchmarks : List String) (call : Call) :
    Prop where
  chained : Chained definitions benchmarks call.chain call.groups call.name
  shallow : call.chain.length ≤ definitions.names.length
  keeps : call.groups.Within call.groupsAfter
  restores : call.succeeded = true → call.chainAfter = call.chain
  resolves : call.succeeded = true → call.name ∈ call.groupsAfter.names
  references : call.succeeded = true → ∀ reference,
    definitions.Refers benchmarks call.name reference → reference ∈ call.groupsAfter.names
  knows : call.succeeded = true → ∀ selection, definitions.Lists call.name selection →
    Catalog.Knows ⟨benchmarks, call.groupsAfter⟩ selection.pattern

theorem Chained.length_le (chained : Chained definitions benchmarks chain groups name) :
    chain.length ≤ definitions.names.length :=
  (chained.distinct.subperm chained.defined).length_le

/-- What holds of the record at all times, whether the search goes on or has failed: the calls were
in order, and the groups are those that were there in the beginning and those that have been given
their members, each of them once. -/
structure Accounted (definitions : Definitions) (benchmarks : List String) (base : Groups)
    (state : SearchState) : Prop where
  calls : ∀ call ∈ state.calls, call.InOrder definitions benchmarks
  once : state.placed.Nodup
  names : ∀ group, group ∈ state.groups.names ↔ group ∈ base.names ∨ group ∈ state.placed

theorem Accounted.place {state : SearchState}
    (accounted : Accounted definitions benchmarks base state)
    (unresolved : name ∉ state.groups.names) (members : NameSet) :
    Accounted definitions benchmarks base (state.place name members) where
  calls := accounted.calls
  once := by
    have new : name ∉ state.placed :=
      fun placed => unresolved ((accounted.names name).mpr (.inr placed))
    rw [SearchState.place, ← List.concat_eq_append]
    exact accounted.once.concat new
  names := by
    intro group
    have before := accounted.names group
    simp only [SearchState.place, NameMap.mem_names_insert, List.mem_append, List.mem_singleton,
      before]
    tauto

/-- The chain does not matter to what is on record. -/
theorem Accounted.rechain {state : SearchState}
    (accounted : Accounted definitions benchmarks base state)
    (chain : List String) : Accounted definitions benchmarks base { state with chain } :=
  ⟨accounted.calls, accounted.once, accounted.names⟩

theorem Accounted.record {state : SearchState} {call : Call}
    (accounted : Accounted definitions benchmarks base state)
    (inOrder : call.InOrder definitions benchmarks) :
    Accounted definitions benchmarks base (state.record call) where
  calls := List.forall_mem_append.mpr ⟨accounted.calls, List.forall_mem_singleton.mpr inOrder⟩
  once := accounted.once
  names := accounted.names

/-- A state in which a group can be asked for at the end of a chain. -/
structure SearchState.Ready (definitions : Definitions) (benchmarks : List String) (base : Groups)
    (chain : List String) (state : SearchState) : Prop where
  along : state.chain = chain
  settled : Settled definitions benchmarks base state.groups
  unresolved : ∀ link ∈ chain, link ∉ state.groups.names
  accounted : Accounted definitions benchmarks base state

/-- What a part of the search leaves behind, even if it has failed. -/
structure Keeps (definitions : Definitions) (benchmarks : List String) (base : Groups)
    (before after : SearchState) : Prop where
  accounted : Accounted definitions benchmarks base after
  within : before.groups.Within after.groups

theorem Keeps.refl {state : SearchState} (accounted : Accounted definitions benchmarks base state) :
    Keeps definitions benchmarks base state state :=
  ⟨accounted, Groups.Within.refl state.groups⟩

theorem Chained.extend {reference : String}
    (chained : Chained definitions benchmarks chain groups name) (fresh : name ∉ chain)
    (refers : definitions.Refers benchmarks name reference) {groups' : Groups}
    (unresolved : ∀ link ∈ chain ++ [name], link ∉ groups'.names) :
    Chained definitions benchmarks (chain ++ [name]) groups' reference where
  distinct := by
    rw [← List.concat_eq_append]
    exact chained.distinct.concat fresh
  defined := List.forall_mem_append.mpr
    ⟨chained.defined, List.forall_mem_singleton.mpr chained.requested⟩
  unresolved := unresolved
  linked := by
    rw [List.isChain_append]
    simpa using ⟨chained.linked, refers⟩
  requested := refers.1

section Calls

variable {state after : SearchState}

/-- A call that succeeds leaves a state in which the next group can be asked for. -/
theorem SearchState.Ready.next (ready : state.Ready definitions benchmarks base chain)
    (path : (chain ++ [name]).IsChain (definitions.Refers benchmarks))
    (follows : Follows chain (definitions.resolveGroup benchmarks chain state.groups name)
      (.ok (), after))
    (accounted : Accounted definitions benchmarks base after) :
    after.Ready definitions benchmarks base chain := by
  obtain ⟨resolves, along⟩ := follows.of_ok
  obtain ⟨advances, -⟩ := (ends_resolveGroup ready.settled path).of_ok resolves
  exact ⟨along, advances.settled,
    fun link onChain listed => ready.unresolved link onChain (advances.spares link onChain listed),
    accounted⟩

/-- A group that has no members yet can be put onto the chain. -/
theorem SearchState.Ready.push (ready : state.Ready definitions benchmarks base state.chain)
    (unresolved : name ∉ state.groups.names) :
    (state.push name).Ready definitions benchmarks base (state.chain ++ [name]) where
  along := rfl
  settled := ready.settled
  unresolved := List.forall_mem_append.mpr
    ⟨ready.unresolved, List.forall_mem_singleton.mpr unresolved⟩
  accounted := ready.accounted.rechain _

/-- What every call for a group of the list keeps is kept by all of them together.  If none has
failed, another group can be asked for at the end of the same chain. -/
theorem keeps_searchEach {list : List String}
    (paths : ∀ reference ∈ list, (chain ++ [reference]).IsChain (definitions.Refers benchmarks))
    (follows : ∀ reference (below : SearchState), below.chain = chain →
      Follows chain (definitions.resolveGroup benchmarks chain below.groups reference)
        (inner reference below))
    (each : ∀ reference ∈ list, ∀ below : SearchState,
      below.Ready definitions benchmarks base chain →
        Keeps definitions benchmarks base below (inner reference below).2)
    (ready : state.Ready definitions benchmarks base chain) :
    Keeps definitions benchmarks base state (searchEach inner list state).2 ∧
      ((searchEach inner list state).1 = .ok () →
        (searchEach inner list state).2.Ready definitions benchmarks base chain) := by
  induction list generalizing state with
  | nil => exact ⟨Keeps.refl ready.accounted, fun _ => ready⟩
  | cons head tail ih =>
      have kept := each head List.mem_cons_self state ready
      have followed := follows head state ready.along
      unfold searchEach
      rcases ended : inner head state with ⟨failure | ⟨⟩, after⟩
      · rw [ended] at kept
        refine ⟨kept, fun succeeded => ?_⟩
        cases succeeded
      · rw [ended] at kept followed
        have ready' := ready.next (paths head List.mem_cons_self) followed kept.accounted
        obtain ⟨kept', succeeds⟩ := ih
          (fun reference member => paths reference (List.mem_cons_of_mem head member))
          (fun reference member => each reference (List.mem_cons_of_mem head member)) ready'
        exact ⟨⟨kept'.accounted, kept.within.trans kept'.within⟩, succeeds⟩

/-- What a call does by itself keeps what the calls keep that it makes. -/
theorem keeps_searchStep (ready : state.Ready definitions benchmarks base state.chain)
    (chained : Chained definitions benchmarks state.chain state.groups name)
    (follows : name ∉ state.chain → ∀ reference (below : SearchState),
      below.chain = state.chain ++ [name] →
        Follows (state.chain ++ [name])
          (definitions.resolveGroup benchmarks (state.chain ++ [name]) below.groups reference)
          (inner reference below))
    (each : name ∉ state.chain → ∀ reference (below : SearchState),
      below.Ready definitions benchmarks base (state.chain ++ [name]) →
        Chained definitions benchmarks (state.chain ++ [name]) below.groups reference →
          Keeps definitions benchmarks base below (inner reference below).2) :
    Keeps definitions benchmarks base state
      (searchStep definitions benchmarks inner name state).2 := by
  unfold searchStep
  split
  · exact Keeps.refl ready.accounted
  rename_i unresolved
  rw [NameMap.contains_iff_mem_names] at unresolved
  split
  · exact Keeps.refl ready.accounted
  rename_i fresh
  split
  · exact Keeps.refl ready.accounted
  rename_i selections defined
  have extended (reference : String)
      (listed : reference ∈ definitions.references benchmarks selections) {groups : Groups}
      (unresolved : ∀ link ∈ state.chain ++ [name], link ∉ groups.names) :
      Chained definitions benchmarks (state.chain ++ [name]) groups reference :=
    chained.extend fresh ((refers_iff_mem_references defined).mpr listed) unresolved
  have opened := ready.push unresolved
  obtain ⟨kept, closes⟩ := keeps_searchEach
    (fun reference listed => (extended reference listed opened.unresolved).linked)
    (follows fresh)
    (fun reference listed below ready =>
      each fresh reference below ready (extended reference listed ready.unresolved)) opened
  rcases ended : searchEach inner (definitions.references benchmarks selections)
    (state.push name) with ⟨failure | ⟨⟩, after⟩
  · rw [ended] at kept
    exact ⟨kept.accounted, kept.within⟩
  · rw [ended] at kept closes
    have closed := closes rfl
    have accounted : Accounted definitions benchmarks base after.pop := kept.accounted.rechain _
    -- The group has been on the chain all the while, so no call below has given it its members.
    have still : name ∉ after.groups.names := closed.unresolved name (by simp)
    dsimp only
    split
    · exact ⟨accounted, kept.within⟩
    · rename_i members _
      exact ⟨accounted.place still members, kept.within.trans (Groups.within_insert members still)⟩

theorem Call.inOrder_ofOutcome {outcome : SearchOutcome}
    (ready : state.Ready definitions benchmarks base state.chain)
    (chained : Chained definitions benchmarks state.chain state.groups name)
    (follows : Follows state.chain
      (definitions.resolveGroup benchmarks state.chain state.groups name) outcome)
    (within : state.groups.Within outcome.2.groups) :
    (Call.ofOutcome name state outcome).InOrder definitions benchmarks := by
  have success (succeeded : outcome.1.isOk = true) :
      outcome.2.chain = state.chain ∧ name ∈ outcome.2.groups.names ∧
        Settled definitions benchmarks base outcome.2.groups := by
    obtain ⟨failure | ⟨⟩, after⟩ := outcome
    · cases succeeded
    · obtain ⟨resolves, along⟩ := follows.of_ok
      obtain ⟨advances, listed⟩ := (ends_resolveGroup ready.settled chained.linked).of_ok resolves
      exact ⟨along, listed chained.requested, advances.settled⟩
  exact
    { chained
      shallow := chained.length_le
      keeps := within
      restores := fun succeeded => (success succeeded).1
      resolves := fun succeeded => (success succeeded).2.1
      references := fun succeeded reference refers =>
        (success succeeded).2.2.mem_names_of_refers (success succeeded).2.1 refers
      knows := fun succeeded selection listed =>
        (success succeeded).2.2.catalog_knows (success succeeded).2.1 listed }

/-- A call keeps what is on record in order, however it ends, and is put on record itself. -/
theorem keeps_search {depth : Nat} (deep : (definitions.outside chain).length < depth)
    (ready : state.Ready definitions benchmarks base chain)
    (chained : Chained definitions benchmarks chain state.groups name) :
    Keeps definitions benchmarks base state (search definitions benchmarks depth name state).2 := by
  -- The induction is on the depth, which exceeds the number of definitions outside the chain: a
  -- call makes others only after it has put one of these definitions onto the chain.
  induction depth generalizing chain name state with
  | zero => exact (Nat.not_lt_zero _ deep).elim
  | succ depth ih =>
      obtain rfl := ready.along
      have deeper (fresh : name ∉ state.chain) :
          (definitions.outside (state.chain ++ [name])).length < depth :=
        length_outside_lt_of_lt_succ fresh chained.requested deep
      have kept : Keeps definitions benchmarks base state
          (searchStep definitions benchmarks (search definitions benchmarks depth) name state).2 :=
        keeps_searchStep ready chained
          (fun fresh reference below along => along ▸ follows_search (along ▸ deeper fresh))
          (fun fresh reference below => ih (deeper fresh))
      have follows : Follows state.chain
          (definitions.resolveGroup benchmarks state.chain state.groups name)
          (search definitions benchmarks (depth + 1) name state) :=
        follows_search deep
      rw [search] at follows ⊢
      exact ⟨kept.accounted.record (Call.inOrder_ofOutcome ready chained
        (follows_recorded.mp follows) kept.within), kept.within⟩

end Calls

theorem ready_start (apart : ∀ group ∈ definitions.names, group ∉ base.names) :
    SearchState.Ready definitions benchmarks base [] { groups := base } where
  along := rfl
  settled := Settled.start apart
  unresolved := by simp
  accounted := ⟨by simp, .nil, by simp⟩

theorem chained_start (requested : name ∈ definitions.names) :
    Chained definitions benchmarks [] groups name where
  distinct := .nil
  defined := by simp
  unresolved := by simp
  linked := .singleton name
  requested := requested

/-- The record of the search for all defined groups, successful or not. -/
theorem accounted_searchAll (apart : ∀ group ∈ definitions.names, group ∉ base.names) :
    Accounted definitions benchmarks base
      (searchAll definitions benchmarks { groups := base }).2 := by
  have shallow := length_outside_lt_succ definitions []
  refine (keeps_searchEach ?_ ?_ ?_ (ready_start apart)).1.accounted
  · exact fun reference _ => .singleton reference
  · exact fun reference below _ => follows_restart shallow
  · intro reference listed below ready
    have same : below.restart = below := by
      rw [SearchState.restart, ← ready.along]
    rw [same]
    exact keeps_search shallow ready (chained_start listed)

end Definitions

namespace Manifest

open Definitions

/-- Resolving a group always ends, and it nests one call more than there are definitions at most,
whatever the definitions are and wherever it begins.  In the course of checking a manifest all calls
are in order, and no group is given its members twice, whether the manifest is sound or not; and the
search that is on record is the one that the suite comes from. -/
theorem search_in_order (manifest : Manifest) :
    (∀ (definitions : Definitions) (benchmarks : List String) (name : String)
      (state : SearchState),
      Follows state.chain (definitions.resolveGroup benchmarks state.chain state.groups name)
        (definitions.search benchmarks (definitions.names.length + 1) name state)) ∧
    ∀ registry definitions,
      manifest.benchmarks.zipIdx.foldlM Registry.register {} = .ok registry →
      manifest.definitions.entries.foldlM (readDefinition registry.groups) ∅ = .ok definitions →
      let base := implicitGroups manifest.names definitions registry.groups
      let outcome := definitions.searchAll manifest.names { groups := base }
      Follows [] (Suite.groups <$> manifest.suite) outcome ∧
        (∀ call ∈ outcome.2.calls, call.InOrder definitions manifest.names) ∧
        outcome.2.placed.Nodup ∧
        ∀ group, group ∈ outcome.2.groups.names ↔
          group ∈ base.names ∨ group ∈ outcome.2.placed := by
  refine ⟨fun definitions benchmarks name state => ?_, ?_⟩
  · exact follows_search (length_outside_lt_succ definitions state.chain)
  · intro registry definitions registers reads base outcome
    have describes := (Registry.ends_registerAll manifest).of_ok registers
    have accounted : Accounted definitions manifest.names base outcome.2 :=
      accounted_searchAll (((ends_readAll describes).of_ok reads).apart describes)
    refine ⟨?_, accounted.calls, accounted.once, accounted.names⟩
    have groups : Suite.groups <$> manifest.suite =
        definitions.resolveAll manifest.names base := by
      unfold suite
      rw [registers, ok_bind, reads, ok_bind]
      cases definitions.resolveAll manifest.names base <;> rfl
    rw [groups]
    exact follows_searchAll

/-- A manifest with two groups that are defined in terms of each other. -/
def circular : Manifest where
  benchmarks := [⟨"chaos", ["math"]⟩]
  definitions := NameMap.ofList
    [("core", ["<math>", "chaos"]), ("quick", ["<slow>"]), ("slow", ["core", "-<quick>"])]

/-- The search finds `quick` on its chain and fails, one call after the other. -/
theorem search_in_order_circular :
    ∃ registry definitions,
      circular.benchmarks.zipIdx.foldlM Registry.register {} = .ok registry ∧
      circular.definitions.entries.foldlM (readDefinition registry.groups) ∅ = .ok definitions ∧
      let outcome := definitions.searchAll circular.names
        { groups := implicitGroups circular.names definitions registry.groups }
      outcome.2.calls.map (fun call => (call.name, call.chain, call.succeeded)) =
          [("core", [], true), ("core", ["quick", "slow"], true),
            ("quick", ["quick", "slow"], false), ("slow", ["quick"], false),
            ("quick", [], false)] ∧
        ∀ call ∈ outcome.2.calls, call.InOrder definitions circular.names := by
  obtain ⟨registry, registers⟩ : ∃ registry,
      circular.benchmarks.zipIdx.foldlM Registry.register {} = .ok registry :=
    exists_eq_ok (by decide +kernel)
  have tagged : registry.groups = NameMap.ofList [("math", NameSet.ofList ["chaos"])] :=
    eq_of_map_eq_ok Registry.groups registers (by decide +kernel)
  have reads : circular.definitions.entries.foldlM (readDefinition registry.groups) ∅ =
      .ok (NameMap.ofList
        [("core", [⟨.inclusion, "<math>", .tag "math"⟩, ⟨.inclusion, "chaos", .name "chaos"⟩]),
          ("quick", [⟨.inclusion, "<slow>", .tag "slow"⟩]),
          ("slow", [⟨.inclusion, "core", .name "core"⟩,
            ⟨.exclusion, "<quick>", .tag "quick"⟩])]) := by
    rw [tagged]
    decide +kernel
  refine ⟨registry, _, registers, reads, ?_, ?_⟩
  · rw [tagged]
    decide +kernel
  · exact ((search_in_order circular).2 registry _ registers reads).2.1

end Manifest

end BenchSuite
