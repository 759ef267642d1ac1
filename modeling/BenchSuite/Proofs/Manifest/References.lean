import BenchSuite.Manifest.Definitions
import BenchSuite.Proofs.Selection.Meaning
import Mathlib.Data.List.Chain
import Mathlib.Logic.Relation

/-!
# References between definitions

A defined group refers to the defined groups whose members its own members are worked out from.
Resolving works along these references, and what it has resolved is always settled: each group has
the members that its definition means among the groups resolved so far, and no reference leads from
a resolved group back to itself.  Where the search gives up, the definitions hold a reference to
something unknown or a cycle of references.
-/

namespace BenchSuite

namespace Definitions

variable {definitions : Definitions} {benchmarks : List String} {base groups : Groups}

def Lists (definitions : Definitions) (group : String) (selection : Selection) : Prop :=
  ∃ selections, definitions.get? group = some selections ∧ selection ∈ selections

def Refers (definitions : Definitions) (benchmarks : List String) (group reference : String) :
    Prop :=
  reference ∈ definitions.names ∧ ∃ selection, definitions.Lists group selection ∧
    (selection.pattern = .tag reference ∨
      selection.pattern = .name reference ∧ reference ∉ benchmarks)

def Knows (definitions : Definitions) (benchmarks : List String) (base : Groups)
    (pattern : Pattern) : Prop :=
  Catalog.Knows ⟨benchmarks, base⟩ pattern ∨ pattern.identifier ∈ definitions.names

/-- What the errors of resolving say about the definitions. -/
def Exhibits (definitions : Definitions) (benchmarks : List String) (base : Groups) :
    ManifestError → Prop
  | .unknownMember group member =>
      definitions.Lists group member ∧ ¬ definitions.Knows benchmarks base member.pattern
  | .groupCycle group links =>
      (∃ through, links = group :: (through ++ [group])) ∧
        links.IsChain (definitions.Refers benchmarks)
  | _ => False

theorem refers_iff_mem_references {group reference : String} {selections : List Selection}
    (defined : definitions.get? group = some selections) :
    definitions.Refers benchmarks group reference ↔
      reference ∈ definitions.references benchmarks selections := by
  have lists (selection : Selection) :
      definitions.Lists group selection ↔ selection ∈ selections := by
    simp [Lists, defined]
  simp only [Refers, references, lists, List.mem_filter, List.mem_map,
    NameMap.contains_iff_mem_names]
  rw [and_comm]
  refine and_congr_left fun _ => exists_congr fun selection => ?_
  obtain ⟨operator, text, pattern⟩ := selection
  cases pattern with
  | name name =>
      simp only [reduceCtorEq, Pattern.name.injEq, false_or, Pattern.isTag, Pattern.identifier,
        Bool.false_or, Bool.not_eq_true', List.contains_eq_mem, decide_eq_false_iff_not]
      constructor
      · rintro ⟨listed, rfl, unregistered⟩
        exact ⟨⟨listed, unregistered⟩, rfl⟩
      · rintro ⟨⟨listed, unregistered⟩, rfl⟩
        exact ⟨listed, rfl, unregistered⟩
  | tag group => simp [Pattern.isTag, Pattern.identifier]

theorem ends_members (benchmarks : List String) (groups : Groups) (group : String)
    (selections : List Selection) :
    Ends (members benchmarks groups group selections)
      (Catalog.Means ⟨benchmarks, groups⟩ selections)
      (fun error => ∃ member ∈ selections, error = .unknownMember group member ∧
        ¬ Catalog.Knows ⟨benchmarks, groups⟩ member.pattern) := by
  rw [members]
  split
  · rename_i empty
    exact .inl ⟨List.isEmpty_iff.mp empty, rfl⟩
  · rename_i nonempty
    simp only
    split
    · rename_i matched
      refine .inr ⟨by simpa using nonempty, _, rfl, matched, fun benchmark => ?_⟩
      exact NameSet.mem_ofList
    · rename_i member rest unmatched
      have listed : member ∈ (Catalog.resolve ⟨benchmarks, groups⟩ selections).unmatched := by
        simp [unmatched]
      rw [Catalog.resolve_eq] at listed
      obtain ⟨listed, unknown⟩ := List.mem_filter.mp listed
      exact ⟨member, listed, rfl, by simpa using unknown⟩

/-- The groups in the course of resolving: each defined group among them has the members that its
definition means, and only finitely many references can be followed from it. -/
structure Settled (definitions : Definitions) (benchmarks : List String) (base groups : Groups) :
    Prop where
  keeps : base.Within groups
  only : ∀ group ∈ groups.names, group ∈ base.names ∨ group ∈ definitions.names
  solved : ∀ group selections members, definitions.get? group = some selections →
    groups.get? group = some members → Catalog.Means ⟨benchmarks, groups⟩ selections members
  grounded : ∀ group ∈ groups.names,
    Acc (fun reference group => definitions.Refers benchmarks group reference) group

namespace Settled

theorem start (apart : ∀ group ∈ definitions.names, group ∉ base.names) :
    Settled definitions benchmarks base base where
  keeps := Groups.Within.refl base
  only := fun _ listed => .inl listed
  solved := by
    intro group selections members defined found
    have inDefinitions := NameMap.mem_names_iff.mpr ⟨selections, defined⟩
    exact (apart group inDefinitions (NameMap.mem_names_iff.mpr ⟨members, found⟩)).elim
  grounded := by
    intro group listed
    refine Acc.intro group fun reference refers => ?_
    obtain ⟨-, selection, ⟨selections, defined, -⟩, -⟩ := refers
    exact (apart group (NameMap.mem_names_iff.mpr ⟨selections, defined⟩) listed).elim

/-- A group whose references are resolved can be added with the members it means. -/
theorem insert {group : String} {selections : List Selection} {members : NameSet}
    (settled : Settled definitions benchmarks base groups)
    (defined : definitions.get? group = some selections) (fresh : group ∉ groups.names)
    (resolved : ∀ reference, definitions.Refers benchmarks group reference →
      reference ∈ groups.names)
    (means : Catalog.Means ⟨benchmarks, groups⟩ selections members) :
    Settled definitions benchmarks base (groups.insert group members) := by
  have within := Groups.within_insert members fresh
  refine ⟨settled.keeps.trans within, ?_, ?_, ?_⟩
  · intro other listed
    rcases NameMap.mem_names_insert.mp listed with rfl | listed
    · exact .inr (NameMap.mem_names_iff.mpr ⟨selections, defined⟩)
    · exact settled.only other listed
  · intro other others members' defined' found
    rw [NameMap.get?_insert] at found
    split at found
    · rename_i same
      subst same
      cases found
      cases defined.symm.trans defined'
      exact means.within within
    · exact (settled.solved other others members' defined' found).within within
  · intro other listed
    rcases NameMap.mem_names_insert.mp listed with rfl | listed
    · exact Acc.intro other fun reference refers =>
        settled.grounded reference (resolved reference refers)
    · exact settled.grounded other listed

/-- A pattern that is unknown although every reference is resolved is unknown for good. -/
theorem not_knows {group : String} {member : Selection}
    (settled : Settled definitions benchmarks base groups)
    (resolved : ∀ reference, definitions.Refers benchmarks group reference →
      reference ∈ groups.names)
    (listed : definitions.Lists group member)
    (unknown : ¬ Catalog.Knows ⟨benchmarks, groups⟩ member.pattern) :
    ¬ definitions.Knows benchmarks base member.pattern := by
  obtain ⟨operator, text, pattern⟩ := member
  cases pattern with
  | name name =>
      obtain ⟨unregistered, absent⟩ := not_or.mp unknown
      rintro ((registered | implicit) | defined)
      · exact unregistered registered
      · exact absent (settled.keeps.mem_names implicit)
      · exact absent (resolved name ⟨defined, _, listed, .inr ⟨rfl, unregistered⟩⟩)
  | tag group =>
      rintro (implicit | defined)
      · exact unknown (settled.keeps.mem_names implicit)
      · exact unknown (resolved group ⟨defined, _, listed, .inl rfl⟩)

/-- Whatever the definition of a resolved group names is there. -/
theorem catalog_knows {group : String} {member : Selection}
    (settled : Settled definitions benchmarks base groups) (resolved : group ∈ groups.names)
    (listed : definitions.Lists group member) :
    Catalog.Knows ⟨benchmarks, groups⟩ member.pattern := by
  obtain ⟨selections, defined, inSelections⟩ := listed
  obtain ⟨members, found⟩ := NameMap.mem_names_iff.mp resolved
  exact (settled.solved group selections members defined found).knows inSelections

theorem mem_names_of_refers {group reference : String}
    (settled : Settled definitions benchmarks base groups) (resolved : group ∈ groups.names)
    (refers : definitions.Refers benchmarks group reference) : reference ∈ groups.names := by
  obtain ⟨-, ⟨operator, text, pattern⟩, listed, rfl | ⟨rfl, unregistered⟩⟩ := refers
  · exact settled.catalog_knows resolved listed
  · exact (settled.catalog_knows resolved listed).resolve_left unregistered

theorem knows {group : String} {member : Selection}
    (settled : Settled definitions benchmarks base groups) (resolved : group ∈ groups.names)
    (listed : definitions.Lists group member) :
    definitions.Knows benchmarks base member.pattern := by
  have known := settled.catalog_knows resolved listed
  obtain ⟨operator, text, pattern⟩ := member
  cases pattern with
  | name name =>
      rcases known with registered | listed
      · exact .inl (.inl registered)
      · exact (settled.only name listed).imp .inr id
  | tag tag => exact settled.only tag known

theorem acyclic {group : String} (settled : Settled definitions benchmarks base groups)
    (resolved : group ∈ groups.names) :
    ¬ Relation.TransGen (definitions.Refers benchmarks) group group := by
  have irreflexive {name : String}
      (grounded : Acc (Relation.TransGen
        fun reference group => definitions.Refers benchmarks group reference) name) :
      ¬ Relation.TransGen (fun reference group => definitions.Refers benchmarks group reference)
        name name := by
    induction grounded with
    | intro name _ ih => exact fun cycle => ih name cycle cycle
  intro cycle
  exact irreflexive (settled.grounded group resolved).transGen (Relation.transGen_swap.mpr cycle)

end Settled

end Definitions

end BenchSuite
