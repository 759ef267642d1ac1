import BenchSuite.Text.Blank
import BenchSuite.Text.Word

/-!
# Classes of characters

The classes of characters are tables of ranges.  Whether two classes have a character in common, or
a span of code points lies in a class, is a finite question about the ends of the ranges.  No blank
is a character of words.
-/

namespace BenchSuite.Text

namespace Ranges

/-- All code points of the span lie in one of the ranges. -/
def hold (ranges : Ranges) (low high : Nat) : Bool :=
  ranges.any fun (first, last) => first ≤ low && high ≤ last

/-- No code point of the span lies in any of the ranges. -/
def avoid (ranges : Ranges) (low high : Nat) : Bool :=
  ranges.all fun (first, last) => last < low || high < first

variable {ranges : Ranges} {low high : Nat} {c : Char}

theorem contains_iff :
    ranges.contains c = true ↔ ∃ range ∈ ranges, range.1 ≤ c.toNat ∧ c.toNat ≤ range.2 := by
  simp [contains]

theorem hold_iff :
    ranges.hold low high = true ↔ ∃ range ∈ ranges, range.1 ≤ low ∧ high ≤ range.2 := by
  simp [hold]

theorem not_contains_of_avoid (avoids : ranges.avoid low high = true) (above : low ≤ c.toNat)
    (below : c.toNat ≤ high) : ranges.contains c = false := by
  rw [Bool.eq_false_iff, ne_eq, contains_iff]
  rintro ⟨range, listed, first, last⟩
  have outside : range.2 < low ∨ high < range.1 := by
    simpa using List.all_eq_true.mp avoids range listed
  omega

end Ranges

theorem not_isWordPart_of_avoid {low high : Nat} {c : Char}
    (starts : wordStartRanges.avoid low high = true) (tails : wordTailRanges.avoid low high = true)
    (above : low ≤ c.toNat) (below : c.toNat ≤ high) : isWordPart c = false := by
  have noStart := Ranges.not_contains_of_avoid starts above below
  have noTail := Ranges.not_contains_of_avoid tails above below
  rw [isWordPart, noStart, noTail, Bool.or_self]

/-- Blanks stand between words and never inside one. -/
theorem not_isWordPart_of_isBlank {c : Char} (blank : isBlank c = true) : isWordPart c = false := by
  have apart : ∀ range ∈ blankRanges, wordStartRanges.avoid range.1 range.2 = true ∧
      wordTailRanges.avoid range.1 range.2 = true := by
    decide +kernel
  obtain ⟨range, listed, above, below⟩ := Ranges.contains_iff.mp blank
  obtain ⟨starts, tails⟩ := apart range listed
  exact not_isWordPart_of_avoid starts tails above below

end BenchSuite.Text
