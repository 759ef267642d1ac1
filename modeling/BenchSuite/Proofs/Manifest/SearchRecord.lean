import BenchSuite.Proofs.Manifest.GroupSearch

/-!
# The search as a sequence of calls

Resolving a group hands the chain down and the groups on.  The same search is written here as it
proceeds in time: one chain that is lengthened when a definition is opened and shortened when it is
done, one collection of groups that grows, and a record of the calls that have ended and of the
groups that have been given their members.  The search may nest only as many calls as it is told to.
That it may nest one call more than there are definitions is always enough, whether there are cycles
among them or not, and the search then ends as resolving does.
-/

namespace BenchSuite

namespace Definitions

/-- Why a search stops before its end: its calls are nested too deeply, or there is a defect. -/
inductive SearchFailure
  | tooDeep
  | defect (error : ManifestError)

/-- A call of the search that has ended: the group that was asked for, the chain and the groups when
the call began and when it ended, and whether it succeeded. -/
structure Call where
  name : String
  chain : List String
  groups : Groups
  chainAfter : List String
  groupsAfter : Groups
  succeeded : Bool

/-- What a search works on, with a record of its calls and of the groups that it has given their
members, each time it has done so. -/
structure SearchState where
  chain : List String := []
  groups : Groups
  calls : List Call := []
  placed : List String := []

namespace SearchState

def push (state : SearchState) (name : String) : SearchState :=
  { state with chain := state.chain ++ [name] }

def pop (state : SearchState) : SearchState :=
  { state with chain := state.chain.dropLast }

/-- The state with a new chain. -/
def restart (state : SearchState) : SearchState :=
  { state with chain := [] }

def place (state : SearchState) (name : String) (members : NameSet) : SearchState :=
  { state with groups := state.groups.insert name members, placed := state.placed ++ [name] }

def record (state : SearchState) (call : Call) : SearchState :=
  { state with calls := state.calls ++ [call] }

end SearchState

/-- How a search has ended, and what it has left behind. -/
abbrev SearchOutcome := Except SearchFailure Unit × SearchState

/-- Searches for one group after the other, up to the first failure. -/
def searchEach (inner : String → SearchState → SearchOutcome) :
    List String → SearchState → SearchOutcome
  | [], state => (.ok (), state)
  | name :: rest, state =>
      match inner name state with
      | (.ok (), after) => searchEach inner rest after
      | (.error failure, after) => (.error failure, after)

/-- What a call does by itself.  The calls for the groups that its definition refers to are made by
way of `inner`. -/
def searchStep (definitions : Definitions) (benchmarks : List String)
    (inner : String → SearchState → SearchOutcome) (name : String) (state : SearchState) :
    SearchOutcome :=
  if state.groups.contains name then (.ok (), state)
  else if name ∈ state.chain then
    (.error (.defect (.groupCycle name (state.chain.dropWhile (· ≠ name) ++ [name]))), state)
  else
    match definitions.get? name with
    | none => (.ok (), state)
    | some selections =>
        match searchEach inner (definitions.references benchmarks selections) (state.push name) with
        | (.error failure, after) => (.error failure, after)
        | (.ok (), after) =>
            match members benchmarks after.groups name selections with
            | .error error => (.error (.defect error), after.pop)
            | .ok members => (.ok (), after.pop.place name members)

/-- The call that began in a state and has ended with an outcome. -/
def Call.ofOutcome (name : String) (state : SearchState) (outcome : SearchOutcome) : Call where
  name
  chain := state.chain
  groups := state.groups
  chainAfter := outcome.2.chain
  groupsAfter := outcome.2.groups
  succeeded := outcome.1.isOk

/-- The outcome of a call, with the call itself on record. -/
def recorded (name : String) (state : SearchState) (outcome : SearchOutcome) : SearchOutcome :=
  (outcome.1, outcome.2.record (Call.ofOutcome name state outcome))

/-- Searches for a group, with calls that are nested to some depth at most. -/
def search (definitions : Definitions) (benchmarks : List String) :
    Nat → String → SearchState → SearchOutcome
  | 0, _, state => (.error .tooDeep, state)
  | depth + 1, name, state =>
      recorded name state
        (searchStep definitions benchmarks (search definitions benchmarks depth) name state)

/-- Searches for every defined group, each time with a new chain. -/
def searchAll (definitions : Definitions) (benchmarks : List String) : SearchState → SearchOutcome :=
  searchEach
    (fun name state =>
      search definitions benchmarks (definitions.names.length + 1) name state.restart)
    definitions.names

/-- A search that ends as resolving does: with the same groups and the chain that it began with, or
with the same defect. -/
def Follows (chain : List String) : Except ManifestError Groups → SearchOutcome → Prop
  | .ok groups, (.ok (), after) => after.groups = groups ∧ after.chain = chain
  | .error error, (.error (.defect error'), _) => error' = error
  | _, _ => False

variable {definitions : Definitions} {benchmarks chain : List String}
  {inner : String → SearchState → SearchOutcome}

theorem Follows.of_ok {resolution : Except ManifestError Groups} {after : SearchState}
    (follows : Follows chain resolution (.ok (), after)) :
    resolution = .ok after.groups ∧ after.chain = chain := by
  cases resolution with
  | ok groups => exact ⟨congrArg Except.ok follows.1.symm, follows.2⟩
  | error error => exact follows.elim

theorem Follows.of_error {resolution : Except ManifestError Groups} {failure : SearchFailure}
    {after : SearchState} (follows : Follows chain resolution (.error failure, after)) :
    ∃ error, resolution = .error error ∧ failure = .defect error := by
  cases resolution with
  | ok groups => exact follows.elim
  | error error =>
      cases failure with
      | tooDeep => exact follows.elim
      | defect error' => exact ⟨error, rfl, congrArg SearchFailure.defect follows⟩

theorem follows_recorded {resolution : Except ManifestError Groups} {name : String}
    {state : SearchState} {outcome : SearchOutcome} :
    Follows chain resolution (recorded name state outcome) ↔ Follows chain resolution outcome := by
  obtain ⟨(_ | _) | _, after⟩ := outcome <;> cases resolution <;> rfl

theorem follows_searchEach {resolve : Groups → String → Except ManifestError Groups}
    (each : ∀ name state, state.chain = chain →
      Follows chain (resolve state.groups name) (inner name state))
    (list : List String) (state : SearchState) (along : state.chain = chain) :
    Follows chain (list.foldlM resolve state.groups) (searchEach inner list state) := by
  induction list generalizing state with
  | nil => exact ⟨rfl, along⟩
  | cons name rest ih =>
      have follows := each name state along
      rw [List.foldlM_cons, searchEach]
      rcases ended : inner name state with ⟨failure | ⟨⟩, after⟩
      · rw [ended] at follows
        obtain ⟨error, fails, rfl⟩ := follows.of_error
        rw [fails]
        exact rfl
      · rw [ended] at follows
        obtain ⟨succeeds, along'⟩ := follows.of_ok
        rw [succeeds]
        exact ih after along'

theorem follows_searchStep {name : String} {state : SearchState}
    (each : name ∉ state.chain → name ∈ definitions.names → ∀ reference (below : SearchState),
      below.chain = state.chain ++ [name] →
        Follows (state.chain ++ [name])
          (definitions.resolveGroup benchmarks (state.chain ++ [name]) below.groups reference)
          (inner reference below)) :
    Follows state.chain (definitions.resolveGroup benchmarks state.chain state.groups name)
      (searchStep definitions benchmarks inner name state) := by
  unfold searchStep
  by_cases resolved : name ∈ state.groups.names
  · rw [if_pos (NameMap.contains_iff_mem_names.mpr resolved), resolveGroup_of_mem resolved]
    exact ⟨rfl, rfl⟩
  rw [if_neg (NameMap.contains_iff_mem_names.not.mpr resolved)]
  by_cases onChain : name ∈ state.chain
  · rw [if_pos onChain, resolveGroup_of_mem_chain resolved onChain]
    exact rfl
  rw [if_neg onChain]
  cases defined : definitions.get? name with
  | none =>
      rw [resolveGroup_of_get?_eq_none defined onChain]
      exact ⟨rfl, rfl⟩
  | some selections =>
      rw [resolveGroup_of_get?_eq_some resolved onChain defined]
      have searched : Follows (state.chain ++ [name])
          ((definitions.references benchmarks selections).foldlM
            (definitions.resolveGroup benchmarks (state.chain ++ [name])) state.groups)
          (searchEach inner (definitions.references benchmarks selections) (state.push name)) :=
        follows_searchEach (each onChain (NameMap.mem_names_iff.mpr ⟨selections, defined⟩)) _
          (state.push name) rfl
      dsimp only
      rcases ended : searchEach inner (definitions.references benchmarks selections)
        (state.push name) with ⟨failure | ⟨⟩, after⟩
      · rw [ended] at searched
        obtain ⟨error, fails, rfl⟩ := searched.of_error
        rw [fails]
        exact rfl
      · rw [ended] at searched
        obtain ⟨succeeds, along⟩ := searched.of_ok
        rw [succeeds, ok_bind]
        dsimp only
        cases members benchmarks after.groups name selections with
        | error error => exact rfl
        | ok members =>
            have restored : after.chain.dropLast = state.chain := by
              rw [along, List.dropLast_concat]
            exact ⟨rfl, restored⟩

/-- Below a call that has put its definition onto the chain, one call less need be nested. -/
theorem length_outside_lt_of_lt_succ {depth : Nat} {name : String} (fresh : name ∉ chain)
    (defined : name ∈ definitions.names)
    (deep : (definitions.outside chain).length < depth + 1) :
    (definitions.outside (chain ++ [name])).length < depth := by
  obtain ⟨selections, found⟩ := NameMap.mem_names_iff.mp defined
  have fewer := length_outside_lt fresh found
  omega

/-- The search ends as resolving does if it may nest more calls than there are definitions outside
the chain: each call that makes others puts one of them onto the chain. -/
theorem follows_search {depth : Nat} {name : String} {state : SearchState}
    (deep : (definitions.outside state.chain).length < depth) :
    Follows state.chain (definitions.resolveGroup benchmarks state.chain state.groups name)
      (search definitions benchmarks depth name state) := by
  induction depth generalizing name state with
  | zero => exact (Nat.not_lt_zero _ deep).elim
  | succ depth ih =>
      rw [search, follows_recorded]
      apply follows_searchStep
      intro fresh defined reference below along
      rw [← along]
      exact ih (along ▸ length_outside_lt_of_lt_succ fresh defined deep)

theorem length_outside_lt_succ (definitions : Definitions) (chain : List String) :
    (definitions.outside chain).length < definitions.names.length + 1 :=
  Nat.lt_succ_of_le (List.length_filter_le _ _)

theorem follows_restart {depth : Nat} {name : String} {state : SearchState}
    (deep : (definitions.outside []).length < depth) :
    Follows [] (definitions.resolveGroup benchmarks [] state.groups name)
      (search definitions benchmarks depth name state.restart) := by
  have restarted : state.restart.chain = [] := rfl
  rw [← restarted] at deep ⊢
  exact follows_search deep

theorem follows_searchAll {groups : Groups} :
    Follows [] (definitions.resolveAll benchmarks groups)
      (searchAll definitions benchmarks { groups }) :=
  follows_searchEach (fun _ _ _ => follows_restart (length_outside_lt_succ definitions []))
    definitions.names { groups } rfl

end Definitions

end BenchSuite
