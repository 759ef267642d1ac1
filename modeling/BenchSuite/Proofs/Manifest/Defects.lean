import BenchSuite.Manifest.Suite
import Mathlib.Data.List.Chain
import Mathlib.Data.List.Nodup
import Mathlib.Logic.Relation

/-!
# Defects of manifests

A manifest is sound when none of the seven kinds of defects occurs in it.  Soundness is a matter of
the declared names, the tokens of the definitions, and the references between them; it is said here
without regard to the order in which a manifest is checked.  An error is exhibited by a manifest if
the defect that it reports is really there, so that a sound manifest exhibits none.
-/

namespace BenchSuite

namespace Manifest

variable {manifest : Manifest}

def HasTag (manifest : Manifest) (tag : String) : Prop :=
  ∃ benchmark ∈ manifest.benchmarks, tag ∈ benchmark.tags

def Defines (manifest : Manifest) (group : String) : Prop :=
  group ∈ manifest.definitions.names

def HasGroup (manifest : Manifest) (group : String) : Prop :=
  manifest.HasTag group ∨ manifest.Defines group ∨ group = allGroup ∨ group = defaultGroup

def Lists (manifest : Manifest) (group : String) (selection : Selection) : Prop :=
  ∃ tokens selections, manifest.definitions.get? group = some tokens ∧
    Selection.parseTokens tokens = .ok selections ∧ selection ∈ selections

/-- The definition of the group names another defined group, under either operator.  A plain name
that is the name of a benchmark does not name a group. -/
def Refers (manifest : Manifest) (group reference : String) : Prop :=
  manifest.Defines reference ∧ ∃ selection, manifest.Lists group selection ∧
    (selection.pattern = .tag reference ∨
      selection.pattern = .name reference ∧ reference ∉ manifest.names)

def Knows (manifest : Manifest) : Pattern → Prop
  | .name name => name ∈ manifest.names ∨ manifest.HasGroup name
  | .tag group => manifest.HasGroup group

/-- No defect occurs in the manifest; each field rules out one kind of them. -/
structure Sound (manifest : Manifest) : Prop where
  names_allowed : ∀ name ∈ manifest.names, NameRule.numericStart.Allows name
  names_nodup : manifest.names.Nodup
  tags_allowed : ∀ tag, manifest.HasTag tag → NameRule.strict.Allows tag ∧ tag ≠ allGroup
  groups_allowed : ∀ group, manifest.Defines group →
    NameRule.strict.Allows group ∧ group ≠ allGroup ∧ ¬ manifest.HasTag group
  definitions_parse : ∀ group tokens, manifest.definitions.get? group = some tokens →
    ∃ selections, Selection.parseTokens tokens = .ok selections
  acyclic : ∀ group, ¬ Relation.TransGen manifest.Refers group group
  members_known : ∀ group selection, manifest.Lists group selection →
    manifest.Knows selection.pattern

/-- The defect that an error reports is present in the manifest. -/
def Exhibits (manifest : Manifest) : ManifestError → Prop
  | .malformedName error =>
      (∃ name ∈ manifest.names, NameRule.numericStart.check name = .error error) ∨
        (∃ name, (manifest.HasTag name ∨ manifest.Defines name) ∧
          NameRule.strict.check name = .error error) ∨
        ∃ group tokens, manifest.definitions.get? group = some tokens ∧
          Selection.parseTokens tokens = .error error
  | .duplicateBenchmark name => 2 ≤ manifest.names.count name
  | .reservedGroup name => name = allGroup ∧ (manifest.HasTag name ∨ manifest.Defines name)
  | .groupConflict name => manifest.HasTag name ∧ manifest.Defines name
  | .unknownMember group member =>
      manifest.Lists group member ∧ ¬ manifest.Knows member.pattern
  | .groupCycle group links =>
      (∃ through, links = group :: (through ++ [group])) ∧ links.IsChain manifest.Refers

theorem transGen_of_isChain {group : String} {through : List String}
    (chain : (group :: (through ++ [group])).IsChain manifest.Refers) :
    Relation.TransGen manifest.Refers group group := by
  obtain ⟨next, rest, split⟩ := List.exists_cons_of_ne_nil
    (List.append_ne_nil_of_right_ne_nil through (List.cons_ne_nil group []))
  have last : (next :: rest).getLast (List.cons_ne_nil next rest) = group := by
    simp [← split]
  rw [split, List.isChain_cons_cons] at chain
  exact .head' chain.1 (List.relationReflTransGen_of_exists_isChain_cons rest chain.2 last)

theorem Sound.not_exhibits (sound : manifest.Sound) (error : ManifestError) :
    ¬ manifest.Exhibits error := by
  have allowed {rule : NameRule} {name : String} {error : NameError} (allows : rule.Allows name) :
      rule.check name ≠ .error error := by
    rw [NameRule.check_eq_ok_iff.mpr ⟨allows, rfl⟩]
    exact fun equal => nomatch equal
  cases error with
  | malformedName error =>
      rintro (⟨name, listed, refused⟩ | ⟨name, tag | group, refused⟩ | ⟨group, tokens, found, refused⟩)
      · exact allowed (sound.names_allowed name listed) refused
      · exact allowed (sound.tags_allowed name tag).1 refused
      · exact allowed (sound.groups_allowed name group).1 refused
      · obtain ⟨selections, parses⟩ := sound.definitions_parse group tokens found
        cases parses.symm.trans refused
  | duplicateBenchmark name =>
      intro twice
      have once := List.nodup_iff_count_le_one.mp sound.names_nodup name
      exact absurd (Nat.le_trans twice once) (by decide)
  | reservedGroup name =>
      rintro ⟨reserved, tag | group⟩
      · exact (sound.tags_allowed name tag).2 reserved
      · exact (sound.groups_allowed name group).2.1 reserved
  | groupConflict name =>
      rintro ⟨tag, group⟩
      exact (sound.groups_allowed name group).2.2 tag
  | unknownMember group member =>
      rintro ⟨listed, unknown⟩
      exact unknown (sound.members_known group member listed)
  | groupCycle group links =>
      rintro ⟨⟨through, rfl⟩, chain⟩
      exact sound.acyclic group (transGen_of_isChain chain)

end Manifest

end BenchSuite
