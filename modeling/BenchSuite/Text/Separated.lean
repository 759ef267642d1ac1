/-!
# Texts cut at a separator

A text is cut at every occurrence of a separator, so that one more piece than separators results,
and empty pieces are kept: joining the pieces with the separator restores the text.
-/

namespace BenchSuite.Text

/-- The pieces of a text between the occurrences of a separator. -/
def cut (separator : Char) : List Char → List (List Char)
  | [] => [[]]
  | c :: rest =>
      if c = separator then [] :: cut separator rest
      else
        match cut separator rest with
        | [] => [[c]]
        | piece :: pieces => (c :: piece) :: pieces

theorem cut_ne_nil (separator : Char) (text : List Char) : cut separator text ≠ [] := by
  cases text with
  | nil => simp [cut]
  | cons c rest =>
      simp only [cut]
      split
      · simp
      · split <;> simp

end BenchSuite.Text
