import BenchSuite.Proofs.Selection.Covering
import BenchSuite.Proofs.Selection.Grammar
import Mathlib.Data.List.Nodup

/-!
# Names as expressions

The name of a benchmark, taken for an expression, has itself for its only piece: names hold neither
commas nor blanks.  A name that begins with no dash is then one inclusion of itself.  Since a dash at
the beginning of a piece marks an exclusion, any other name excludes what stands after its dash.

A registered name means its benchmark and nothing else, also where a group has the same name.
-/

namespace BenchSuite

namespace Text

/-- There is nothing to trim in a text without blanks. -/
theorem trim_eq_self {text : List Char} (solid : ∀ c ∈ text, isBlank c = false) :
    trim text = text := by
  have start : trimStart text = text := by
    apply List.dropWhile_eq_self_iff.mpr
    intro nonempty
    simp [solid _ (List.getElem_mem nonempty)]
  have ending : text.rdropWhile isBlank = text := by
    apply List.rdropWhile_eq_self_iff.mpr
    intro nonempty
    simp [solid _ (List.getLast_mem nonempty)]
  rw [trim, start]
  exact ending

end Text

theorem pieces_of_spelling {name : String} (spelling : IsBenchmarkSpelling name.toList) :
    pieces name = [name.toList] := by
  obtain ⟨nonempty, characters⟩ := spelling
  have uncut : name.toList.splitOn ',' = [name.toList] := by
    rw [List.splitOn_eq_splitOnP]
    apply List.splitOnP_eq_singleton
    intro c member
    simpa using (characters c member).ne_delimiter.1
  have untrimmed : Text.trim name.toList = name.toList :=
    Text.trim_eq_self fun c member => (characters c member).not_isBlank
  simp [pieces, uncut, untrimmed, nonempty]

theorem Pattern.parse_of_spelling {text : String} (spelling : IsBenchmarkSpelling text.toList) :
    parse text = .ok (.name text) := by
  have unbracketed : ∀ inside, text.toList ≠ bracketed inside := by
    intro inside same
    exact not_isBenchmarkSpelling_bracketed inside (same ▸ spelling)
  have allowed := NameRule.numericStart_allows_iff.mpr spelling
  rw [parse_of_unbracketed unbracketed, parseName, NameRule.check_eq_ok_iff.mpr ⟨allowed, rfl⟩]
  rfl

namespace Entry

theorem ofTrimmed_of_plain {name : String} (plain : IsPlainName name) :
    ofTrimmed name.toList = ⟨.inclusion, name⟩ := by
  rw [ofTrimmed_of_dashless plain.dashless, String.ofList_toList]

theorem ofTrimmed_dash_append (rest : String) :
    ofTrimmed ("-" ++ rest).toList = ⟨.exclusion, rest⟩ := by
  simp [ofTrimmed]

end Entry

namespace Selection

/-- An expression that is a name is read as the entry that its characters make. -/
theorem parse_of_spelling {name : String} {entry : Entry}
    (spelling : IsBenchmarkSpelling name.toList) (read : Entry.ofTrimmed name.toList = entry) :
    parse name = (fun selection => [selection]) <$> ofEntry entry := by
  rw [parse_eq_mapM, pieces_of_spelling spelling, List.mapM_cons, read]
  rfl

theorem ofEntry_of_spelling {operator : Operator} {text : String}
    (spelling : IsBenchmarkSpelling text.toList) :
    ofEntry ⟨operator, text⟩ = .ok ⟨operator, text, .name text⟩ := by
  rw [ofEntry, Pattern.parse_of_spelling spelling]
  rfl

theorem parse_of_plain {name : String} (plain : IsPlainName name) :
    parse name = .ok [⟨.inclusion, name, .name name⟩] := by
  rw [parse_of_spelling plain.spelling (Entry.ofTrimmed_of_plain plain),
    ofEntry_of_spelling plain.spelling]
  rfl

theorem parse_dash_append {rest : String} (spelling : IsBenchmarkSpelling rest.toList) :
    parse ("-" ++ rest) = .ok [⟨.exclusion, rest, .name rest⟩] := by
  have dashed : IsBenchmarkSpelling ("-" ++ rest).toList := by
    refine ⟨by simp, ?_⟩
    rw [String.toList_append]
    exact List.forall_mem_append.mpr ⟨by simp [IsNameCharacter], spelling.2⟩
  rw [parse_of_spelling dashed (Entry.ofTrimmed_dash_append rest), ofEntry_of_spelling spelling]
  rfl

end Selection

namespace Catalog

variable {catalog : Catalog} {operator : Operator} {text name benchmark : String}

theorem covers_name_iff_of_mem (registered : name ∈ catalog.benchmarks) :
    catalog.Covers ⟨operator, text, .name name⟩ benchmark ↔ benchmark = name := by
  constructor
  · rintro (⟨same, -⟩ | ⟨group, tagged | ⟨same, unregistered⟩, -⟩)
    · exact (Pattern.name.inj same).symm
    · cases tagged
    · cases same
      exact (unregistered registered).elim
  · rintro rfl
    exact .inl ⟨rfl, registered⟩

theorem covers_name_iff_of_not_mem (unregistered : name ∉ catalog.benchmarks) :
    catalog.Covers ⟨operator, text, .name name⟩ benchmark ↔
      catalog.groups.HasMember name benchmark := by
  constructor
  · rintro (⟨same, registered⟩ | ⟨group, tagged | ⟨same, -⟩, member⟩)
    · cases same
      exact (unregistered registered).elim
    · cases tagged
    · cases same
      exact member
  · intro member
    exact .inr ⟨name, .inr ⟨rfl, unregistered⟩, member⟩

/-- A single inclusion selects what it covers. -/
theorem selects_inclusion_iff {pattern : Pattern} :
    catalog.Selects [⟨.inclusion, text, pattern⟩] benchmark ↔
      catalog.Covers ⟨.inclusion, text, pattern⟩ benchmark := by
  simp [Selects]

/-- An inclusion that covers one benchmark alone selects just this benchmark. -/
theorem resolve_of_covers_alone {pattern : Pattern} (distinct : catalog.benchmarks.Nodup)
    (registered : name ∈ catalog.benchmarks)
    (alone : ∀ benchmark,
      catalog.Covers ⟨.inclusion, text, pattern⟩ benchmark ↔ benchmark = name) :
    catalog.resolve [⟨.inclusion, text, pattern⟩] = ⟨[name], []⟩ := by
  have known : catalog.Knows pattern := ((alone name).mpr rfl).knows
  have selected : (catalog.benchmarks.filter fun benchmark =>
      catalog.Selects [⟨.inclusion, text, pattern⟩] benchmark) = [name] := by
    calc (catalog.benchmarks.filter fun benchmark =>
          catalog.Selects [⟨.inclusion, text, pattern⟩] benchmark)
        = catalog.benchmarks.filter (fun benchmark => benchmark = name) := by
          simp only [selects_inclusion_iff, alone]
      _ = List.replicate (catalog.benchmarks.count name) name := List.filter_eq name
      _ = [name] := by rw [List.count_eq_one_of_mem distinct registered]; rfl
  rw [resolve_eq, selected]
  simp [known]

/-- Including a registered name selects its benchmark, whatever group has the name as well. -/
theorem resolve_registered (text : String) (distinct : catalog.benchmarks.Nodup)
    (registered : name ∈ catalog.benchmarks) :
    catalog.resolve [⟨.inclusion, text, .name name⟩] = ⟨[name], []⟩ :=
  resolve_of_covers_alone distinct registered fun _ => covers_name_iff_of_mem registered

/-- Including a name that no benchmark has selects the members of the group of that name. -/
theorem mem_resolve_unregistered_iff (unregistered : name ∉ catalog.benchmarks) :
    benchmark ∈ (catalog.resolve [⟨.inclusion, text, .name name⟩]).benchmarks ↔
      benchmark ∈ catalog.benchmarks ∧ catalog.groups.HasMember name benchmark := by
  simp [resolve_eq, selects_inclusion_iff, covers_name_iff_of_not_mem unregistered]

/-- Including another name selects a benchmark alone only by way of a group that has no other
member. -/
theorem resolve_eq_alone_iff {other : String} (text : String)
    (distinct : catalog.benchmarks.Nodup) (registered : name ∈ catalog.benchmarks)
    (closed : ∀ group member, catalog.groups.HasMember group member → member ∈ catalog.benchmarks) :
    catalog.resolve [⟨.inclusion, text, .name other⟩] = ⟨[name], []⟩ ↔
      other = name ∨ other ∉ catalog.benchmarks ∧
        ∀ member, catalog.groups.HasMember other member ↔ member = name := by
  by_cases found : other ∈ catalog.benchmarks
  · rw [resolve_registered text distinct found]
    simp [found]
  · have differs : other ≠ name := fun same => found (same ▸ registered)
    simp only [differs, found, not_false_eq_true, true_and, false_or]
    constructor
    · intro alone member
      have members : member ∈ (catalog.resolve [⟨.inclusion, text, .name other⟩]).benchmarks ↔
          member ∈ catalog.benchmarks ∧ catalog.groups.HasMember other member :=
        mem_resolve_unregistered_iff found
      rw [alone, List.mem_singleton] at members
      exact ⟨fun belongs => members.mpr ⟨closed other member belongs, belongs⟩,
        fun same => (members.mp same).2⟩
    · intro alone
      apply resolve_of_covers_alone distinct registered
      intro member
      rw [covers_name_iff_of_not_mem found, alone]

end Catalog

end BenchSuite
