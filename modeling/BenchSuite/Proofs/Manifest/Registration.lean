import BenchSuite.Proofs.FallibleComputation
import BenchSuite.Proofs.Manifest.Defects
import BenchSuite.Proofs.Selection.Covering

/-!
# Registering benchmarks and reading definitions

The first two phases of checking a manifest go through its benchmarks and through its definitions.
The registry always describes the benchmarks registered so far, and the definitions read so far are
those of the entries gone through; an error of either phase is exhibited by the manifest.
-/

namespace BenchSuite

namespace Manifest

variable {manifest : Manifest}

theorem ends_check {rule : NameRule} {name : String} :
    Ends (rule.check name) (fun _ => rule.Allows name)
      (fun error => rule.check name = .error error) := by
  cases checked : rule.check name with
  | ok result => exact (NameRule.check_eq_ok_iff.mp checked).1
  | error error => rfl

theorem ends_checkName {rule : NameRule} {name : String} :
    Ends (checkName rule name) (fun _ => rule.Allows name)
      (fun error => ∃ cause, error = .malformedName cause ∧ rule.check name = .error cause) := by
  refine Ends.bind (Ends.mapError (ends_check.mono (fun _ allowed => allowed) ?_))
    fun _ allowed => allowed
  exact fun cause refused => ⟨cause, rfl, refused⟩

theorem ends_checkGroupName {name : String}
    (declared : manifest.HasTag name ∨ manifest.Defines name) :
    Ends (checkGroupName name) (fun _ => NameRule.strict.Allows name ∧ name ≠ allGroup)
      manifest.Exhibits := by
  refine Ends.bind (ends_checkName.mono (fun _ allowed => allowed) ?_) fun _ allowed => ?_
  · rintro error ⟨cause, rfl, refused⟩
    exact .inr (.inl ⟨name, declared, refused⟩)
  · split
    · rename_i reserved
      exact ⟨reserved, declared⟩
    · rename_i unreserved
      exact ⟨allowed, unreserved⟩

/-- The groups after a benchmark with some tags has been added to groups. -/
structure Tagged (benchmark : String) (tags : List String) (groups result : Groups) : Prop where
  allowed : ∀ tag ∈ tags, NameRule.strict.Allows tag ∧ tag ≠ allGroup
  names : ∀ tag, tag ∈ result.names ↔ tag ∈ groups.names ∨ tag ∈ tags
  members : ∀ tag name, Groups.HasMember result tag name ↔
    Groups.HasMember groups tag name ∨ name = benchmark ∧ tag ∈ tags

theorem Tagged.nil (benchmark : String) (groups : Groups) : Tagged benchmark [] groups groups where
  allowed := by simp
  names := by simp
  members := by simp

theorem hasMember_insert {groups : Groups} {group other name : String} {members : NameSet} :
    Groups.HasMember (groups.insert group members) other name ↔
      if other = group then name ∈ members else Groups.HasMember groups other name := by
  rw [Groups.HasMember, NameMap.get?_insert]
  split
  · simp
  · rfl

theorem Tagged.snoc {benchmark tag : String} {tags : List String} {groups result : Groups}
    (tagged : Tagged benchmark tags groups result)
    (allowed : NameRule.strict.Allows tag ∧ tag ≠ allGroup) :
    Tagged benchmark (tags ++ [tag]) groups
      (result.insert tag (((result.get? tag).getD ∅).insert benchmark)) where
  allowed := List.forall_mem_append.mpr ⟨tagged.allowed, List.forall_mem_singleton.mpr allowed⟩
  names := by
    intro other
    rw [NameMap.mem_names_insert, tagged.names, List.mem_append, List.mem_singleton]
    tauto
  members := by
    intro other name
    rw [hasMember_insert]
    split
    · rename_i same
      subst same
      rw [NameSet.mem_insert, ← Groups.hasMember_iff, tagged.members, List.mem_append]
      simp only [List.mem_singleton, or_true, and_true]
      tauto
    · rename_i differs
      rw [tagged.members, List.mem_append, List.mem_singleton]
      simp [differs]

theorem ends_registerTags {benchmark : Benchmark} (registered : benchmark ∈ manifest.benchmarks)
    (groups : Groups) :
    Ends (benchmark.tags.foldlM (registerTag benchmark.name) groups)
      (Tagged benchmark.name benchmark.tags groups) manifest.Exhibits := by
  apply Ends.foldlM (motive := fun done result => Tagged benchmark.name done groups result)
  · exact Tagged.nil benchmark.name groups
  · intro done tag rest result split tagged
    have carried : manifest.HasTag tag := ⟨benchmark, registered, by simp [split]⟩
    exact (ends_checkGroupName (.inl carried)).bind fun _ allowed => tagged.snoc allowed

namespace Registry

/-- The registry of a list of benchmarks, all of whose names are allowed and distinct. -/
structure Describes (registry : Registry) (benchmarks : List Benchmark) : Prop where
  index : ∀ name position, registry.index.get? name = some position ↔
    (benchmarks.map Benchmark.name)[position]? = some name
  distinct : (benchmarks.map Benchmark.name).Nodup
  names_allowed : ∀ benchmark ∈ benchmarks, NameRule.numericStart.Allows benchmark.name
  tags_allowed : ∀ benchmark ∈ benchmarks, ∀ tag ∈ benchmark.tags,
    NameRule.strict.Allows tag ∧ tag ≠ allGroup
  names : ∀ tag, tag ∈ registry.groups.names ↔ ∃ benchmark ∈ benchmarks, tag ∈ benchmark.tags
  members : ∀ tag name, registry.groups.HasMember tag name ↔
    ∃ benchmark ∈ benchmarks, benchmark.name = name ∧ tag ∈ benchmark.tags

theorem describes_nil : Describes {} [] where
  index := by simp
  distinct := .nil
  names_allowed := by simp
  tags_allowed := by simp
  names := by simp [NameMap.mem_names_iff]
  members := by simp [Groups.HasMember]

theorem Describes.contains_iff {registry : Registry} {benchmarks : List Benchmark}
    (describes : registry.Describes benchmarks) (name : String) :
    registry.index.contains name = true ↔ name ∈ benchmarks.map Benchmark.name := by
  rw [NameMap.contains_iff_mem_names, NameMap.mem_names_iff, List.mem_iff_getElem?]
  exact exists_congr (describes.index name)

theorem getElem?_snoc_iff {names : List String} {last name : String} {position : Nat} :
    (names ++ [last])[position]? = some name ↔
      names[position]? = some name ∨ position = names.length ∧ last = name := by
  rcases Nat.lt_trichotomy position names.length with before | rfl | after
  · simp [List.getElem?_append_left before, Nat.ne_of_lt before]
  · simp
  · have beyond : (names ++ [last]).length ≤ position := by
      rw [List.length_append, List.length_singleton]
      omega
    rw [List.getElem?_eq_none beyond, List.getElem?_eq_none (Nat.le_of_lt after)]
    simp [Nat.ne_of_gt after]

theorem Describes.snoc {registry : Registry} {done : List Benchmark} {benchmark : Benchmark}
    {groups : Groups} (describes : registry.Describes done)
    (allowed : NameRule.numericStart.Allows benchmark.name)
    (fresh : benchmark.name ∉ done.map Benchmark.name)
    (tagged : Tagged benchmark.name benchmark.tags registry.groups groups) :
    Describes ⟨registry.index.insert benchmark.name done.length, groups⟩ (done ++ [benchmark]) where
  index := by
    intro name position
    rw [NameMap.get?_insert, List.map_append, List.map_singleton, getElem?_snoc_iff,
      List.length_map]
    split
    · rename_i same
      subst same
      have absent : (done.map Benchmark.name)[position]? ≠ some benchmark.name :=
        fun found => fresh (List.mem_of_getElem? found)
      simp only [absent, false_or, and_true, Option.some.injEq]
      exact eq_comm
    · rename_i differs
      rw [describes.index]
      simp only [Ne.symm differs, and_false, or_false]
  distinct := by
    rw [List.map_append, List.map_singleton, List.nodup_append]
    refine ⟨describes.distinct, List.nodup_singleton _, ?_⟩
    intro name listed other last same
    rw [List.mem_singleton] at last
    exact fresh (last ▸ same ▸ listed)
  names_allowed := List.forall_mem_append.mpr
    ⟨describes.names_allowed, List.forall_mem_singleton.mpr allowed⟩
  tags_allowed := List.forall_mem_append.mpr
    ⟨describes.tags_allowed, List.forall_mem_singleton.mpr tagged.allowed⟩
  names := by
    intro tag
    rw [tagged.names, describes.names]
    simp [or_and_right, exists_or]
  members := by
    intro tag name
    rw [tagged.members, describes.members]
    simp [or_and_right, exists_or, eq_comm]

theorem ends_register {registry : Registry} {done rest : List Benchmark} {benchmark : Benchmark}
    (split : manifest.benchmarks = done ++ benchmark :: rest)
    (describes : registry.Describes done) :
    Ends (registry.register (benchmark, done.length))
      (fun result => result.Describes (done ++ [benchmark])) manifest.Exhibits := by
  have registered : benchmark ∈ manifest.benchmarks := by simp [split]
  refine Ends.bind (ends_checkName.mono (fun _ allowed => allowed) ?_) fun _ allowed => ?_
  · rintro error ⟨cause, rfl, refused⟩
    exact .inl ⟨benchmark.name, List.mem_map_of_mem registered, refused⟩
  · dsimp only
    split
    · rename_i taken
      have taken := (describes.contains_iff benchmark.name).mp taken
      change 2 ≤ manifest.names.count benchmark.name
      have before := List.count_pos_iff.mpr taken
      rw [names, split, List.map_append, List.map_cons, List.count_append, List.count_cons_self]
      omega
    · rename_i fresh
      have fresh := (describes.contains_iff benchmark.name).not.mp fresh
      exact (ends_registerTags registered registry.groups).bind fun groups tagged =>
        describes.snoc allowed fresh tagged

/-- Registering all benchmarks of a manifest describes them. -/
theorem ends_registerAll (manifest : Manifest) :
    Ends (manifest.benchmarks.zipIdx.foldlM Registry.register {})
      (fun registry => registry.Describes manifest.benchmarks) manifest.Exhibits := by
  have registers : Ends (manifest.benchmarks.zipIdx.foldlM Registry.register {})
      (fun registry => registry.Describes (manifest.benchmarks.zipIdx.map Prod.fst))
      manifest.Exhibits := by
    apply Ends.foldlM (motive := fun done registry => Describes registry (done.map Prod.fst))
    · exact describes_nil
    · rintro done ⟨benchmark, position⟩ rest registry split describes
      have found : manifest.benchmarks.zipIdx[done.length]? = some (benchmark, position) := by
        simp [split]
      have inOrder : position = (done.map Prod.fst).length := by
        rw [List.getElem?_zipIdx] at found
        obtain ⟨_, _, same⟩ := Option.map_eq_some_iff.mp found
        have places := congrArg Prod.snd same
        simpa [eq_comm] using places
      have benchmarks : manifest.benchmarks =
          done.map Prod.fst ++ benchmark :: rest.map Prod.fst := by
        rw [← List.zipIdx_map_fst 0 manifest.benchmarks, split]
        simp
      rw [List.map_append, List.map_singleton, inOrder]
      exact ends_register benchmarks describes
  simpa using registers

end Registry

/-- The definitions read from some entries, all of which can be read under an allowed name. -/
structure ReadsFrom (manifest : Manifest) (entries : List (String × List String))
    (definitions : Definitions) : Prop where
  get?_iff : ∀ group selections, definitions.get? group = some selections ↔
    ∃ tokens, (group, tokens) ∈ entries ∧ Selection.parseTokens tokens = .ok selections
  parses : ∀ entry ∈ entries, ∃ selections, Selection.parseTokens entry.2 = .ok selections
  allowed : ∀ entry ∈ entries,
    NameRule.strict.Allows entry.1 ∧ entry.1 ≠ allGroup ∧ ¬ manifest.HasTag entry.1

theorem readsFrom_nil (manifest : Manifest) : ReadsFrom manifest [] ∅ where
  get?_iff := by simp
  parses := by simp
  allowed := by simp

theorem ReadsFrom.snoc {done : List (String × List String)} {definitions : Definitions}
    {group : String} {tokens : List String} {selections : List Selection}
    (reads : manifest.ReadsFrom done definitions) (fresh : group ∉ done.map Prod.fst)
    (allowed : NameRule.strict.Allows group ∧ group ≠ allGroup ∧ ¬ manifest.HasTag group)
    (parses : Selection.parseTokens tokens = .ok selections) :
    manifest.ReadsFrom (done ++ [(group, tokens)]) (definitions.insert group selections) where
  get?_iff := by
    intro other others
    rw [NameMap.get?_insert]
    split
    · rename_i same
      subst same
      have absent (tokens : List String) : (other, tokens) ∉ done :=
        fun listed => fresh (List.mem_map_of_mem listed)
      simp [absent, parses]
    · rename_i differs
      rw [reads.get?_iff]
      simp [differs]
  parses := List.forall_mem_append.mpr
    ⟨reads.parses, List.forall_mem_singleton.mpr ⟨selections, parses⟩⟩
  allowed := List.forall_mem_append.mpr ⟨reads.allowed, List.forall_mem_singleton.mpr allowed⟩

theorem ends_parseTokens {group : String} {tokens : List String}
    (found : manifest.definitions.get? group = some tokens) :
    Ends ((Selection.parseTokens tokens).mapError ManifestError.malformedName)
      (fun selections => Selection.parseTokens tokens = .ok selections) manifest.Exhibits := by
  cases parses : Selection.parseTokens tokens with
  | ok selections => exact rfl
  | error error => exact .inr (.inr ⟨group, tokens, found, parses⟩)

theorem ends_readDefinition {registry : Registry} {definitions : Definitions}
    {done rest : List (String × List String)} {group : String} {tokens : List String}
    (describes : registry.Describes manifest.benchmarks)
    (split : manifest.definitions.entries = done ++ (group, tokens) :: rest)
    (reads : manifest.ReadsFrom done definitions) :
    Ends (readDefinition registry.groups definitions (group, tokens))
      (manifest.ReadsFrom (done ++ [(group, tokens)])) manifest.Exhibits := by
  have found : manifest.definitions.get? group = some tokens := by
    rw [← NameMap.mem_entries_iff, split]
    simp
  have defined : manifest.Defines group := NameMap.mem_names_iff.mpr ⟨tokens, found⟩
  have fresh : group ∉ done.map Prod.fst := by
    have ascending := manifest.definitions.ascending
    rw [split, List.map_append, List.map_cons, List.pairwise_append] at ascending
    intro listed
    exact String.lt_irrefl group (ascending.2.2 group listed group List.mem_cons_self)
  refine Ends.bind (ends_checkGroupName (.inr defined)) fun _ allowed => ?_
  dsimp only
  split
  · rename_i tagged
    exact ⟨(describes.names group).mp (NameMap.contains_iff_mem_names.mp tagged), defined⟩
  · rename_i untagged
    refine Ends.bind (ends_parseTokens found) fun selections parses => ?_
    refine reads.snoc fresh ⟨allowed.1, allowed.2, fun tagged => untagged ?_⟩ parses
    exact NameMap.contains_iff_mem_names.mpr ((describes.names group).mpr tagged)

/-- Reading all definitions of a manifest yields what their tokens stand for. -/
theorem ends_readAll {registry : Registry} (describes : registry.Describes manifest.benchmarks) :
    Ends (manifest.definitions.entries.foldlM (readDefinition registry.groups) ∅)
      (manifest.ReadsFrom manifest.definitions.entries) manifest.Exhibits := by
  apply Ends.foldlM (motive := manifest.ReadsFrom)
  · exact readsFrom_nil manifest
  · rintro done ⟨group, tokens⟩ rest definitions split reads
    exact ends_readDefinition describes split reads

end Manifest

end BenchSuite
