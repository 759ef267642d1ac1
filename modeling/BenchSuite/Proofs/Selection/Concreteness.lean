import BenchSuite.Proofs.Selection.PrintedForm
import BenchSuite.Proofs.Selection.Unsupported

/-!
# Concrete selections

A guard tests the names in patterns by the rules by which patterns are read.  So it never refuses
what has been read for a malformed name, and the only selections of an expression that it has
something against are exclusions of groups.  Inclusions of well-formed names pass every guard.
-/

namespace BenchSuite

theorem Pattern.not_malformed_of_parse {text : String} {pattern : Pattern}
    (parsed : parse text = .ok pattern) : ¬ pattern.Malformed := by
  obtain ⟨reference, meant⟩ := (ends_parse text).of_ok parsed
  cases pattern with
  | name benchmark =>
      obtain ⟨unbracketed, same⟩ := (meant.name_iff benchmark).mp rfl
      rw [isReference_iff_of_unbracketed unbracketed, same] at reference
      rintro ⟨refused⟩
      exact refused (NameRule.numericStart_allows_iff.mpr reference)
  | tag group =>
      rw [(meant.tag_iff group).mp rfl, isReference_bracketed_iff] at reference
      rintro (_ | refused)
      exact refused (NameRule.strict_allows_iff.mpr reference)

theorem Selection.not_malformed_of_parseTokens {tokens : List String} {selections : List Selection}
    (parsed : parseTokens tokens = .ok selections) :
    ∀ selection ∈ selections, ¬ selection.pattern.Malformed := by
  intro selection listed
  have printable := printable_of_parseTokens parsed selection listed
  exact Pattern.not_malformed_of_parse printable.parse_text

namespace NegationGuard

/-- The error is about a selection of the list that excludes a group, and says so. -/
inductive RefusesNegation (guard : NegationGuard) (catalog : Catalog)
    (selections : List Selection) : SelectionError → Prop
  | intro {selection : Selection} (listed : selection ∈ selections)
      (negates : guard.NegatesGroup catalog selection) :
      RefusesNegation guard catalog selections (.unsupported selection .negatedGroup)

variable {guard : NegationGuard} {catalog : Catalog} {selections : List Selection}

theorem Refuses.refusesNegation {error : SelectionError}
    (refuses : guard.Refuses catalog selections error)
    (concrete : ∀ selection ∈ selections, ¬ selection.pattern.Malformed) :
    guard.RefusesNegation catalog selections error := by
  obtain ⟨before, selection, after, refusal, rfl, -, unsupported, reason, rfl⟩ :=
    refuses.exists_first
  have listed : selection ∈ before ++ selection :: after := by simp
  have wellFormed := concrete selection listed
  cases refusal with
  | notConcrete => exact (wellFormed (reason.mp rfl)).elim
  | negatedGroup => exact .intro listed (unsupported.resolve_left wellFormed)

/-- A guard watches for exclusions only. -/
theorem passes_of_inclusions
    (concrete : ∀ selection ∈ selections, ¬ selection.pattern.Malformed)
    (includes : ∀ selection ∈ selections, selection.operator = .inclusion) :
    guard.Passes catalog selections := by
  apply passes_iff.mpr
  rintro selection listed (malformed | negates)
  · exact concrete selection listed malformed
  · have operator := includes selection listed
    cases negates <;> cases operator

theorem check_eq_ok_of_passes (passes : guard.Passes catalog selections) :
    guard.check catalog selections = .ok () := by
  have sound : ∀ error, ¬ guard.Refuses catalog selections error :=
    fun error refuses => refuses.not_passes passes
  obtain ⟨⟨⟩, succeeds, -⟩ := (ends_check guard catalog selections).exists_ok sound
  exact succeeds

end NegationGuard

end BenchSuite
