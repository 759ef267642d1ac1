import BenchSuite.Proofs.Names.Spelling

/-!
# Names made of other names

The rules for names form a scale: what the strict rule allows the numeric one allows too, and what
that allows is not empty.  A name under the numeric rule is just what can stand behind an
underscore, or behind any other name, so names can be put together as long as the first of them
begins as it must.
-/

namespace BenchSuite

variable {text next : List Char}

theorem IsBenchmarkSpelling.append (spelling : IsBenchmarkSpelling text)
    (spelling' : IsBenchmarkSpelling next) : IsBenchmarkSpelling (text ++ next) :=
  ⟨List.append_ne_nil_of_left_ne_nil spelling.1 next,
    List.forall_mem_append.mpr ⟨spelling.2, spelling'.2⟩⟩

theorem IsTagSpelling.append (spelling : IsTagSpelling text)
    (continues : ∀ c ∈ next, IsNameCharacter c) : IsTagSpelling (text ++ next) := by
  obtain ⟨first, rest, rfl, starts, tail⟩ := spelling
  exact ⟨first, rest ++ next, rfl, starts, List.forall_mem_append.mpr ⟨tail, continues⟩⟩

/-- Behind an underscore, which begins a word, the characters of names can stand in any order. -/
theorem isTagSpelling_underscore_cons_iff :
    IsTagSpelling ('_' :: text) ↔ ∀ c ∈ text, IsNameCharacter c := by
  constructor
  · rintro ⟨first, rest, same, -, tail⟩
    obtain ⟨rfl, rfl⟩ := List.cons.inj same
    exact tail
  · intro tail
    exact ⟨'_', text, rfl, by decide, tail⟩

namespace NameRule

theorem anyText_allows_iff {name : String} : anyText.Allows name ↔ name ≠ "" := by
  simp [Allows, fault?, anyText]

theorem isBenchmarkSpelling_of_allows {name : String}
    (allowed : strict.Allows name ∨ numericStart.Allows name) :
    IsBenchmarkSpelling name.toList := by
  rcases allowed with strictly | numerically
  · exact (strict_allows_iff.mp strictly).isBenchmarkSpelling
  · exact numericStart_allows_iff.mp numerically

/-- The rules fit together.  The numeric rule allows the names that are not empty and become strict
ones behind an underscore.  It lies between the strict rule and the loose one.  A name that the
numeric rule allows may follow one that the strict rule allows, or one that the numeric rule allows,
and the two together are again allowed in the same way.  No name under either rule contains a blank
or a mark of selection expressions other than the dash. -/
theorem rules_fit_together (name next : String) :
    (numericStart.Allows name ↔ name ≠ "" ∧ strict.Allows ("_" ++ name)) ∧
      (strict.Allows name → numericStart.Allows name) ∧
      (numericStart.Allows name → anyText.Allows name) ∧
      (strict.Allows name → numericStart.Allows next → strict.Allows (name ++ next)) ∧
      (numericStart.Allows name → numericStart.Allows next →
        numericStart.Allows (name ++ next)) ∧
      (strict.Allows name ∨ numericStart.Allows name →
        ∀ c ∈ name.toList, c ≠ ',' ∧ c ≠ '<' ∧ c ≠ '>' ∧ Text.isBlank c = false) := by
  have nonempty : name.toList ≠ [] ↔ name ≠ "" := by simp
  refine ⟨?_, ?_, ?_, ?_, ?_, ?_⟩
  · have underscored : ("_" ++ name).toList = '_' :: name.toList := by
      rw [String.toList_append]
      rfl
    rw [numericStart_allows_iff, strict_allows_iff, underscored,
      isTagSpelling_underscore_cons_iff, IsBenchmarkSpelling, nonempty]
  · exact fun allowed => numericStart_allows_iff.mpr (isBenchmarkSpelling_of_allows (.inl allowed))
  · intro allowed
    exact anyText_allows_iff.mpr (nonempty.mp (numericStart_allows_iff.mp allowed).1)
  · intro allowed continues
    rw [strict_allows_iff, String.toList_append]
    exact (strict_allows_iff.mp allowed).append (numericStart_allows_iff.mp continues).2
  · intro allowed continues
    rw [numericStart_allows_iff, String.toList_append]
    exact (numericStart_allows_iff.mp allowed).append (numericStart_allows_iff.mp continues)
  · intro allowed c member
    have character := (isBenchmarkSpelling_of_allows allowed).2 c member
    obtain ⟨comma, opening, closing⟩ := character.ne_delimiter
    exact ⟨comma, opening, closing, character.not_isBlank⟩

end NameRule

end BenchSuite
