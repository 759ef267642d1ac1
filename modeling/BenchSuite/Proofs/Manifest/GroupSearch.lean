import BenchSuite.Proofs.Manifest.References

/-!
# The search for the members of groups

The search goes down a chain of groups, each referring to the next.  It keeps what is settled
settled, it never resolves a group that is still on the chain, and when it fails the definitions
have a fault: the chain has closed, or a selection names something unknown although everything it
could refer to is resolved.  Since the search can only fail for a fault, it succeeds on all
definitions without one, in whatever order the groups are asked for.
-/

namespace BenchSuite

namespace Definitions

variable {definitions : Definitions} {benchmarks chain : List String} {base groups : Groups}
  {name : String}

theorem resolveGroup_of_mem (resolved : name ∈ groups.names) :
    definitions.resolveGroup benchmarks chain groups name = .ok groups := by
  rw [resolveGroup, if_pos (NameMap.contains_iff_mem_names.mpr resolved)]

theorem resolveGroup_of_mem_chain (unresolved : name ∉ groups.names) (onChain : name ∈ chain) :
    definitions.resolveGroup benchmarks chain groups name =
      .error (.groupCycle name (chain.dropWhile (· ≠ name) ++ [name])) := by
  rw [resolveGroup, if_neg (NameMap.contains_iff_mem_names.not.mpr unresolved), dif_pos onChain]

theorem resolveGroup_of_get?_eq_none (undefined : definitions.get? name = none)
    (fresh : name ∉ chain) :
    definitions.resolveGroup benchmarks chain groups name = .ok groups := by
  rw [resolveGroup]
  split
  · rfl
  · split
    · rfl
    · rename_i selections defined
      cases undefined.symm.trans defined

theorem resolveGroup_of_get?_eq_some {selections : List Selection}
    (unresolved : name ∉ groups.names) (fresh : name ∉ chain)
    (defined : definitions.get? name = some selections) :
    definitions.resolveGroup benchmarks chain groups name = (do
      let groups ← (definitions.references benchmarks selections).foldlM
        (definitions.resolveGroup benchmarks (chain ++ [name])) groups
      let members ← members benchmarks groups name selections
      pure (groups.insert name members)) := by
  rw [resolveGroup, if_neg (NameMap.contains_iff_mem_names.not.mpr unresolved), dif_neg fresh]
  split
  · rename_i undefined
    cases undefined.symm.trans defined
  · rename_i selections' defined'
    cases defined.symm.trans defined'
    rfl

/-- What a search along a chain makes of the groups that it starts from. -/
structure Advances (definitions : Definitions) (benchmarks : List String) (base : Groups)
    (chain : List String) (groups result : Groups) : Prop where
  settled : Settled definitions benchmarks base result
  within : groups.Within result
  spares : ∀ link ∈ chain, link ∈ result.names → link ∈ groups.names

theorem Advances.refl (settled : Settled definitions benchmarks base groups) :
    Advances definitions benchmarks base chain groups groups :=
  ⟨settled, Groups.Within.refl groups, fun _ _ listed => listed⟩

theorem Advances.trans {first second third : Groups}
    (advances : Advances definitions benchmarks base chain first second)
    (advances' : Advances definitions benchmarks base chain second third) :
    Advances definitions benchmarks base chain first third where
  settled := advances'.settled
  within := advances.within.trans advances'.within
  spares := fun link onChain listed =>
    advances.spares link onChain (advances'.spares link onChain listed)

/-- A chain that meets one of its links again closes into a cycle. -/
theorem exhibits_groupCycle (base : Groups)
    (path : (chain ++ [name]).IsChain (definitions.Refers benchmarks)) (onChain : name ∈ chain) :
    definitions.Exhibits benchmarks base
      (.groupCycle name (chain.dropWhile (· ≠ name) ++ [name])) := by
  obtain ⟨before, through, rfl, notBefore⟩ := List.eq_append_cons_of_mem onChain
  have closes : (before ++ name :: through).dropWhile (· ≠ name) = name :: through := by
    rw [List.dropWhile_append_of_pos, List.dropWhile_cons_of_neg (by simp)]
    intro link member
    simp only [decide_eq_true_eq]
    rintro rfl
    exact notBefore member
  rw [closes]
  refine ⟨⟨through, rfl⟩, path.suffix ?_⟩
  exact ⟨before, by simp⟩

/-- The search for a group keeps what is settled and resolves the group if it is defined, or else it
comes upon a fault. -/
theorem ends_resolveGroup (settled : Settled definitions benchmarks base groups)
    (path : (chain ++ [name]).IsChain (definitions.Refers benchmarks)) :
    Ends (definitions.resolveGroup benchmarks chain groups name)
      (fun result => Advances definitions benchmarks base chain groups result ∧
        (name ∈ definitions.names → name ∈ result.names))
      (definitions.Exhibits benchmarks base) := by
  induction chain, groups, name using resolveGroup.induct definitions with
  | case1 chain groups name resolved =>
      have resolved := NameMap.contains_iff_mem_names.mp resolved
      rw [resolveGroup_of_mem resolved]
      exact ⟨Advances.refl settled, fun _ => resolved⟩
  | case2 chain groups name unresolved onChain =>
      have unresolved := NameMap.contains_iff_mem_names.not.mp unresolved
      rw [resolveGroup_of_mem_chain unresolved onChain]
      exact exhibits_groupCycle base path onChain
  | case3 chain groups name unresolved fresh undefined =>
      rw [resolveGroup_of_get?_eq_none undefined fresh]
      refine ⟨Advances.refl settled, fun defined => ?_⟩
      exact (NameMap.get?_eq_none_iff.mp undefined defined).elim
  | case4 chain groups name unresolved fresh selections defined ih =>
      have unresolved := NameMap.contains_iff_mem_names.not.mp unresolved
      rw [resolveGroup_of_get?_eq_some unresolved fresh defined]
      have searched : Ends ((definitions.references benchmarks selections).foldlM
          (definitions.resolveGroup benchmarks (chain ++ [name])) groups)
          (fun state => Advances definitions benchmarks base (chain ++ [name]) groups state ∧
            ∀ reference ∈ definitions.references benchmarks selections,
              reference ∈ state.names)
          (definitions.Exhibits benchmarks base) := by
        apply Ends.foldlM (motive := fun done state =>
          Advances definitions benchmarks base (chain ++ [name]) groups state ∧
            ∀ reference ∈ done, reference ∈ state.names)
        · exact ⟨Advances.refl settled, by simp⟩
        · rintro done reference rest state split ⟨advances, resolved⟩
          have refers : definitions.Refers benchmarks name reference := by
            rw [refers_iff_mem_references defined, split]
            simp
          have longer : (chain ++ [name] ++ [reference]).IsChain
              (definitions.Refers benchmarks) := by
            rw [List.isChain_append]
            simpa using ⟨path, refers⟩
          refine (ih state reference advances.settled longer).mono ?_ fun _ fault => fault
          rintro result ⟨advances', resolves⟩
          refine ⟨advances.trans advances', List.forall_mem_append.mpr ⟨?_, ?_⟩⟩
          · exact fun other listed => advances'.within.mem_names (resolved other listed)
          · exact List.forall_mem_singleton.mpr (resolves refers.1)
      refine searched.bind ?_
      rintro state ⟨advances, resolved⟩
      have references (reference : String)
          (refers : definitions.Refers benchmarks name reference) : reference ∈ state.names :=
        resolved reference ((refers_iff_mem_references defined).mp refers)
      refine Ends.bind ((ends_members benchmarks state name selections).mono
        (fun _ means => means) ?_) fun members means => ?_
      · rintro error ⟨member, listed, rfl, unknown⟩
        have lists : definitions.Lists name member := ⟨selections, defined, listed⟩
        exact ⟨lists, advances.settled.not_knows references lists unknown⟩
      · have unresolved' : name ∉ state.names :=
          fun listed => unresolved (advances.spares name (by simp) listed)
        refine ⟨⟨advances.settled.insert defined unresolved' references means,
          advances.within.trans (Groups.within_insert members unresolved'), ?_⟩, by simp⟩
        intro link onChain listed
        rcases NameMap.mem_names_insert.mp listed with rfl | listed
        · exact (fresh onChain).elim
        · exact advances.spares link (by simp [onChain]) listed

/-- Resolving groups one after another settles all of them that are defined. -/
theorem ends_foldlM_resolveGroup (names : List String)
    (settled : Settled definitions benchmarks base groups) :
    Ends (names.foldlM (definitions.resolveGroup benchmarks []) groups)
      (fun result => Settled definitions benchmarks base result ∧
        ∀ name ∈ names, name ∈ definitions.names → name ∈ result.names)
      (definitions.Exhibits benchmarks base) := by
  apply Ends.foldlM (motive := fun done state =>
    Settled definitions benchmarks base state ∧
      ∀ name ∈ done, name ∈ definitions.names → name ∈ state.names)
  · exact ⟨settled, by simp⟩
  · rintro done next rest state - ⟨settled, resolved⟩
    refine (ends_resolveGroup settled (by simp)).mono ?_ fun _ fault => fault
    rintro result ⟨advances, resolves⟩
    refine ⟨advances.settled, List.forall_mem_append.mpr ⟨?_, ?_⟩⟩
    · exact fun name listed defined => advances.within.mem_names (resolved name listed defined)
    · exact List.forall_mem_singleton.mpr resolves

end Definitions

end BenchSuite
