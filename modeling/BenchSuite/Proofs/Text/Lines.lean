import BenchSuite.Text.Separated
import Mathlib.Data.List.Basic

/-!
# Lines and what stands in them

Texts that are written line by line end every line with a line break, and groups of lines may be
ended by an empty line in the same way.  Such a text is taken apart at the marks that end its
pieces.  This is the inverse of writing pieces in which the mark does not occur, and it fails where
something stands behind the last mark, so that nothing of the text is overlooked.

A line is then read from its front: a fixed opening, or a number up to its last digit.
-/

namespace BenchSuite.Text

section Ended

variable {α : Type} [DecidableEq α]

/-- The pieces of a list, each of which is ended by the mark. -/
def ended? (mark : α) : List α → Option (List (List α))
  | [] => some []
  | a :: rest =>
      if a = mark then ([] :: ·) <$> ended? mark rest
      else
        match ended? mark rest with
        | some (piece :: pieces) => some ((a :: piece) :: pieces)
        | _ => none

variable {mark : α}

theorem ended?_append {piece : List α} (clean : mark ∉ piece) (rest : List α) :
    ended? mark (piece ++ mark :: rest) = (piece :: ·) <$> ended? mark rest := by
  induction piece with
  | nil => rw [List.nil_append, ended?, if_pos rfl]
  | cons a piece ih =>
      have differs : a ≠ mark := fun same => clean (same ▸ List.mem_cons_self)
      have cleanTail : mark ∉ piece := fun member => clean (List.mem_cons_of_mem a member)
      rw [List.cons_append, ended?, if_neg differs, ih cleanTail]
      cases ended? mark rest <;> rfl

/-- Pieces without the mark are found again after they have been ended by it. -/
theorem ended?_flatMap {pieces : List (List α)} (clean : ∀ piece ∈ pieces, mark ∉ piece) :
    ended? mark (pieces.flatMap (· ++ [mark])) = some pieces := by
  induction pieces with
  | nil => rfl
  | cons piece pieces ih =>
      obtain ⟨cleanPiece, cleanRest⟩ := List.forall_mem_cons.mp clean
      rw [List.flatMap_cons, List.append_assoc, List.singleton_append, ended?_append cleanPiece,
        ih cleanRest]
      rfl

end Ended

/-- The lines of a text, each of which is ended by a line break. -/
def lines? (text : String) : Option (List (List Char)) :=
  ended? '\n' text.toList

theorem lines?_of_toList {text : String} {lines : List (List Char)}
    (written : text.toList = lines.flatMap (· ++ ['\n'])) (clean : ∀ line ∈ lines, '\n' ∉ line) :
    lines? text = some lines := by
  rw [lines?, written, ended?_flatMap clean]

/-- What follows an opening, if the text begins with it. -/
def behind? (opening text : List Char) : Option (List Char) :=
  if opening.isPrefixOf text then some (text.drop opening.length) else none

@[simp]
theorem behind?_append (opening rest : List Char) :
    behind? opening (opening ++ rest) = some rest := by
  simp [behind?]

/-- The number whose digits a text begins with, and what follows them. -/
def number? (text : List Char) : Option (Nat × List Char) :=
  match text.takeWhile Char.isDigit with
  | [] => none
  | digits => some (Nat.ofDigitChars 10 digits 0, text.dropWhile Char.isDigit)

/-- A number is read as far as its digits go. -/
theorem number?_toString (number : Nat) {rest : List Char}
    (ends : rest.head?.any Char.isDigit = false) :
    number? ((toString number).toList ++ rest) = some (number, rest) := by
  have digits : ∀ c ∈ Nat.toDigits 10 number, c.isDigit = true :=
    fun c member => Nat.isDigit_of_mem_toDigits (by decide) (by decide) member
  have stops : rest.takeWhile Char.isDigit = [] ∧ rest.dropWhile Char.isDigit = rest := by
    cases rest with
    | nil => exact ⟨rfl, rfl⟩
    | cons c rest =>
        have other : c.isDigit = false := ends
        simp [other]
  rw [number?, Nat.toString_eq_ofList_toDigits, String.toList_ofList,
    List.takeWhile_append_of_pos digits, List.dropWhile_append_of_pos digits, stops.1, stops.2,
    List.append_nil]
  split
  · rename_i none
    exact (Nat.toDigits_ne_nil none).elim
  · rw [Nat.ofDigitChars_ten_toDigits]

theorem not_mem_toString_of_not_isDigit {c : Char} (other : c.isDigit = false) (number : Nat) :
    c ∉ (toString number).toList := by
  rw [Nat.toString_eq_ofList_toDigits, String.toList_ofList]
  intro member
  have digit := Nat.isDigit_of_mem_toDigits (by decide) (by decide) member
  simp [digit] at other

/-- Elements are read again, one by one, if each of them is. -/
theorem mapM_map_eq_some {α β : Type} {write : α → β} {read : β → Option α} {list : List α}
    (restores : ∀ element ∈ list, read (write element) = some element) :
    (list.map write).mapM read = some list := by
  induction list with
  | nil => rfl
  | cons head tail ih =>
      obtain ⟨restoresHead, restoresTail⟩ := List.forall_mem_cons.mp restores
      rw [List.map_cons, List.mapM_cons, restoresHead, ih restoresTail]
      rfl

end BenchSuite.Text
