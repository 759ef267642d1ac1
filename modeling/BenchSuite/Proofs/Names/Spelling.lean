import BenchSuite.Names.NameRule
import BenchSuite.Proofs.Text.CharacterClasses

/-!
# The spelling of names

Names are made of the characters of words and of dashes.  The strict rule allows those that begin
like a word, and the numeric rule all of them but the empty one.  The test reads a dash as an
underscore; the spelling is said here of the name as it stands.
-/

namespace BenchSuite

/-- The characters that names are made of: those of words, and the dash. -/
def IsNameCharacter (c : Char) : Prop :=
  c = '-' ∨ Text.isWordPart c = true

/-- The spelling of tags and groups, which begin like a word. -/
def IsTagSpelling (text : List Char) : Prop :=
  ∃ first rest, text = first :: rest ∧ Text.isWordStart first = true ∧
    ∀ c ∈ rest, IsNameCharacter c

/-- The spelling of benchmarks, which may also begin with a digit or a dash. -/
def IsBenchmarkSpelling (text : List Char) : Prop :=
  text ≠ [] ∧ ∀ c ∈ text, IsNameCharacter c

/-- A name that begins with no dash, so that the dash cannot be taken for the mark of an
exclusion. -/
structure IsPlainName (name : String) : Prop where
  spelling : IsBenchmarkSpelling name.toList
  dashless : name.toList.head? ≠ some '-'

namespace NameRule

theorem check_eq_error_iff {rule : NameRule} {name : String} {error : NameError} :
    rule.check name = .error error ↔ error.name = name ∧ rule.fault? name = some error.fault := by
  obtain ⟨blamed, fault⟩ := error
  unfold check
  cases rule.fault? name <;> simp [eq_comm]

/-- How the tables of characters class the dash, the underscore that it is read as, and the
delimiters of selection expressions. -/
theorem classes_of_punctuation :
    Text.isWordStart '-' = false ∧ Text.isWordPart '_' = true ∧ Text.isWordPart ',' = false ∧
      Text.isWordPart '<' = false ∧ Text.isWordPart '>' = false := by
  decide +kernel

theorem isWordPart_withoutDash_iff {c : Char} :
    Text.isWordPart (withoutDash c) = true ↔ IsNameCharacter c := by
  by_cases dash : c = '-'
  · obtain ⟨-, underscore, -⟩ := classes_of_punctuation
    simp [withoutDash, IsNameCharacter, dash, underscore]
  · simp [withoutDash, IsNameCharacter, dash]

theorem isWordTail_iff {text : List Char} :
    isWordTail text = true ↔ ∀ c ∈ text, IsNameCharacter c := by
  simp [isWordTail, isWordPart_withoutDash_iff]

theorem isWord_cons_iff {first : Char} {rest : List Char} (dashless : first ≠ '-') :
    isWord (first :: rest) = true ↔
      Text.isWordStart first = true ∧ ∀ c ∈ rest, IsNameCharacter c := by
  simp [isWord, withoutDash, dashless, ← isWordPart_withoutDash_iff]

theorem numericStart_allows_iff {name : String} :
    numericStart.Allows name ↔ IsBenchmarkSpelling name.toList := by
  simp only [Allows, fault?, numericStart, IsBenchmarkSpelling, ← isWordTail_iff]
  cases name.toList with
  | nil => simp
  | cons first rest => simp

theorem strict_allows_iff {name : String} :
    strict.Allows name ↔ IsTagSpelling name.toList := by
  simp only [Allows, fault?, strict, IsTagSpelling]
  cases name.toList with
  | nil => simp
  | cons first rest =>
      by_cases dash : first = '-'
      · obtain ⟨refused, -⟩ := classes_of_punctuation
        simp [dash, refused, and_assoc]
      · simp [dash, isWord_cons_iff dash, and_assoc]

end NameRule

theorem IsNameCharacter.ne {c other : Char} (character : IsNameCharacter c) (dash : other ≠ '-')
    (refused : Text.isWordPart other = false) : c ≠ other := by
  rintro rfl
  rcases character with same | part
  · exact dash same
  · simp [refused] at part

/-- No character that has a meaning in selection expressions occurs in a name, except the dash. -/
theorem IsNameCharacter.ne_delimiter {c : Char} (character : IsNameCharacter c) :
    c ≠ ',' ∧ c ≠ '<' ∧ c ≠ '>' := by
  obtain ⟨-, -, comma, opening, closing⟩ := NameRule.classes_of_punctuation
  exact ⟨character.ne (by decide) comma, character.ne (by decide) opening,
    character.ne (by decide) closing⟩

theorem IsNameCharacter.not_isBlank {c : Char} (character : IsNameCharacter c) :
    Text.isBlank c = false := by
  rcases character with rfl | part
  · decide
  · cases blank : Text.isBlank c with
    | false => rfl
    | true => simp [Text.not_isWordPart_of_isBlank blank] at part

theorem IsBenchmarkSpelling.not_mem_of_isBlank {text : List Char} {c : Char}
    (spelling : IsBenchmarkSpelling text) (blank : Text.isBlank c = true) : c ∉ text := by
  intro member
  simp [(spelling.2 c member).not_isBlank] at blank

theorem IsTagSpelling.isBenchmarkSpelling {text : List Char} (spelling : IsTagSpelling text) :
    IsBenchmarkSpelling text := by
  obtain ⟨first, rest, rfl, starts, tail⟩ := spelling
  refine ⟨by simp, fun c member => ?_⟩
  rcases List.mem_cons.mp member with rfl | member
  · exact .inr (Text.isWordPart_of_isWordStart starts)
  · exact tail c member

end BenchSuite
