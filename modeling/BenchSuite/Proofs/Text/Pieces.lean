import BenchSuite.Text.Blank
import BenchSuite.Text.Separated
import Mathlib.Data.List.DropRight

/-!
# Pieces of texts

Cutting a text at a separator is the inverse of joining pieces in which the separator does not
occur, and it occurs in none of the pieces of a text.  Trimming a text that has been trimmed changes
nothing, since there is no blank at its ends.
-/

namespace BenchSuite.Text

theorem cut_eq_splitOn (separator : Char) (text : List Char) :
    cut separator text = text.splitOn separator := by
  induction text with
  | nil => rfl
  | cons c rest ih =>
      rw [List.splitOn_eq_splitOnP] at ih ⊢
      rw [List.splitOnP_cons_eq_if_modifyHead, cut, ih]
      by_cases here : c = separator
      · simp [here]
      · cases split : rest.splitOnP (· == separator) with
        | nil => exact (cut_ne_nil separator rest (ih.trans split)).elim
        | cons piece pieces => simp [here]

theorem cut_append_cons (separator : Char) (text rest : List Char) :
    cut separator (text ++ separator :: rest) = cut separator text ++ cut separator rest := by
  simp only [cut_eq_splitOn, List.splitOn_eq_splitOnP]
  exact List.splitOnP_append_cons text rest (beq_self_eq_true separator)

/-- Pieces that do not hold the separator are found again after they have been joined with it. -/
theorem cut_intercalate {separator : Char} {pieces : List (List Char)} (nonempty : pieces ≠ [])
    (clean : ∀ piece ∈ pieces, separator ∉ piece) :
    cut separator ([separator].intercalate pieces) = pieces := by
  rw [cut_eq_splitOn]
  exact List.splitOn_intercalate separator clean nonempty

theorem not_mem_of_mem_cut {separator : Char} {text piece : List Char}
    (member : piece ∈ cut separator text) : separator ∉ piece := by
  induction text generalizing piece with
  | nil =>
      rw [List.mem_singleton.mp member]
      exact List.not_mem_nil
  | cons c rest ih =>
      unfold cut at member
      split at member
      · rcases List.mem_cons.mp member with rfl | later
        · exact List.not_mem_nil
        · exact ih later
      · rename_i other
        split at member
        · rw [List.mem_singleton.mp member]
          simpa using Ne.symm other
        · rename_i head pieces split
          rw [split] at ih
          rcases List.mem_cons.mp member with rfl | later
          · exact List.not_mem_cons_of_ne_of_not_mem (Ne.symm other) (ih List.mem_cons_self)
          · exact ih (List.mem_cons_of_mem head later)

theorem trim_subset (text : List Char) : trim text ⊆ text :=
  List.Subset.trans (List.rdropWhile_prefix isBlank (trimStart text)).subset
    (List.dropWhile_subset isBlank)

theorem trimStart_trim (text : List Char) : trimStart (trim text) = trim text := by
  apply List.dropWhile_eq_self_iff.mpr
  intro left blank
  -- What is left begins as the text does once the blanks at its beginning are gone.
  have begins : trim text <+: trimStart text := List.rdropWhile_prefix isBlank _
  rw [begins.getElem left] at blank
  exact List.dropWhile_get_zero_not isBlank text (left.trans_le begins.length_le) blank

@[simp]
theorem trim_trim (text : List Char) : trim (trim text) = trim text := by
  calc trim (trim text) = trimEnd (trim text) := congrArg trimEnd (trimStart_trim text)
    _ = trim text := List.rdropWhile_idempotent isBlank (trimStart text)

theorem not_isBlank_of_head?_trim {text : List Char} {c : Char}
    (first : (trim text).head? = some c) : isBlank c = false := by
  rw [← trimStart_trim] at first
  have stops := List.head?_dropWhile_not isBlank (trim text)
  rw [← trimStart, first] at stops
  exact stops

theorem not_isBlank_of_getLast?_trim {text : List Char} {c : Char}
    (last : (trim text).getLast? = some c) : isBlank c = false := by
  have nonempty : trim text ≠ [] := by
    rintro empty
    simp [empty] at last
  have stops := List.rdropWhile_last_not isBlank (trimStart text) nonempty
  rw [List.getLast?_eq_some_getLast nonempty] at last
  rw [← Option.some.inj last]
  exact Bool.eq_false_iff.mpr stops

end BenchSuite.Text
