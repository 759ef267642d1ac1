import BenchSuite.Proofs.FallibleComputation
import BenchSuite.Proofs.Text.Pieces
import BenchSuite.Selection.Expression

/-!
# Entries and their tokens

Printing an entry restores the token from which it was read, without the blanks around it, so that
reading what has been printed gives the same entry again.  This concerns the marks of exclusions
only, whatever the text of an entry may stand for.
-/

namespace BenchSuite

namespace Entry

/-- What is written in a list of tokens: the tokens without the blanks around them, as far as
anything is left of them. -/
def written (tokens : List String) : List (List Char) :=
  (tokens.map fun token => Text.trim token.toList).filter (· ≠ [])

theorem ofToken?_eq_some_iff {token : String} {entry : Entry} :
    ofToken? token = some entry ↔
      Text.trim token.toList ≠ [] ∧ ofTrimmed (Text.trim token.toList) = entry := by
  unfold ofToken?
  cases Text.trim token.toList <;> simp

theorem ofTokens_eq_map (tokens : List String) :
    ofTokens tokens = (written tokens).map ofTrimmed := by
  induction tokens with
  | nil => rfl
  | cons token tokens ih =>
      by_cases blank : Text.trim token.toList = []
      · have skipped : ofToken? token = none := by simp [ofToken?, blank]
        rw [ofTokens, List.filterMap_cons_none skipped, ← ofTokens, ih]
        simp [written, blank]
      · have read := ofToken?_eq_some_iff.mpr ⟨blank, rfl⟩
        rw [ofTokens, List.filterMap_cons_some read, ← ofTokens, ih]
        simp [written, blank]

theorem ofTrimmed_of_dashless {text : List Char} (dashless : text.head? ≠ some '-') :
    ofTrimmed text = ⟨.inclusion, String.ofList text⟩ := by
  unfold ofTrimmed
  split
  · exact (dashless rfl).elim
  · rfl

@[simp]
theorem toList_render_ofTrimmed (text : List Char) : (ofTrimmed text).render.toList = text := by
  unfold ofTrimmed
  split <;> simp [render, Operator.mark]

/-- An entry that has been read is read again from its printed form. -/
theorem ofToken?_render {token : String} {entry : Entry} (read : ofToken? token = some entry) :
    ofToken? entry.render = some entry := by
  obtain ⟨nonempty, rfl⟩ := ofToken?_eq_some_iff.mp read
  rw [ofToken?_eq_some_iff, toList_render_ofTrimmed, Text.trim_trim]
  exact ⟨nonempty, rfl⟩

end Entry

/-- Cutting at the commas finds the texts that have been joined with them. -/
theorem tokens_intercalate {texts : List String} (nonempty : texts ≠ [])
    (clean : ∀ text ∈ texts, ',' ∉ text.toList) : tokens (",".intercalate texts) = texts := by
  have pieces : Text.cut ',' (",".intercalate texts).toList = texts.map String.toList := by
    rw [String.toList_intercalate]
    exact Text.cut_intercalate (by simpa using nonempty) (by simpa using clean)
  rw [tokens, pieces, List.map_map]
  simp [Function.comp_def]

end BenchSuite
