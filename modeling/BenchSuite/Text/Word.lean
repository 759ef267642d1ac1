import BenchSuite.Text.WordTable

/-!
# Words

A word character may stand inside an identifier; some word characters may also begin one.  The
classes are those of Unicode, with the underscore counted among the beginnings.
-/

namespace BenchSuite.Text

def isWordStart (c : Char) : Bool :=
  c == '_' || wordStartRanges.contains c

def isWordPart (c : Char) : Bool :=
  wordStartRanges.contains c || wordTailRanges.contains c

/-- What may begin an identifier may also stand inside one. -/
theorem isWordPart_of_isWordStart {c : Char} (starts : isWordStart c) : isWordPart c := by
  simp only [isWordStart, isWordPart, Bool.or_eq_true, beq_iff_eq] at starts ⊢
  rcases starts with rfl | starts
  · exact Or.inr (by decide)
  · exact Or.inl starts

end BenchSuite.Text
