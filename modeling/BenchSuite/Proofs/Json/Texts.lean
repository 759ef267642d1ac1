import BenchSuite.Json.Parser
import BenchSuite.Json.Printer
import Mathlib.Tactic.SplitIfs

/-!
# Texts in JSON

A text is printed between quotes, and its characters are escaped one by one.  There are three ways
in which a character is written: by a letter behind a backslash, by its number, or as it stands.
Each of them is read as that character alone, so that a text is read again up to its closing quote.
-/

namespace BenchSuite

theorem Text.characterOfNumber?_toNat (c : Char) : characterOfNumber? c.toNat = some c := by
  have valid : c.toNat.isValidChar := c.valid
  rw [characterOfNumber?, dif_pos valid]
  exact congrArg some (Char.ext (UInt32.ofNat_toNat))

namespace Json

/-- The ways in which a character is written in a text. -/
inductive Writes (c : Char) : List Char → Prop
  | letter {letter : Char} (stands : unescape? letter = some c) (unnumbered : letter ≠ 'u') :
      Writes c ['\\', letter]
  | number {digits : List Char} (four : digits.length = 4)
      (value : Text.hexNumber? digits = some c.toNat) : Writes c ('\\' :: 'u' :: digits)
  | itself (quote : c ≠ '\x22') (backslash : c ≠ '\\') (visible : ¬ c < ' ') : Writes c [c]

theorem writes_controlDigits {c : Char} (control : c < ' ') :
    Writes c (['\\', 'u'] ++ controlDigits c) := by
  have each : ∀ number < 32, (controlDigits (Char.ofNat number)).length = 4 ∧
      Text.hexNumber? (controlDigits (Char.ofNat number)) = some number := by
    decide
  have small : c.toNat < 32 := control
  obtain ⟨four, value⟩ := each c.toNat small
  rw [Char.ofNat_toNat] at four value
  exact .number four value

theorem writes_escape (c : Char) : Writes c (escape c) := by
  unfold escape
  split_ifs with quote backslash backspace formFeed lineFeed carriageReturn tabulator control
  · subst quote
    exact .letter rfl (by decide)
  · subst backslash
    exact .letter rfl (by decide)
  · subst backspace
    exact .letter rfl (by decide)
  · subst formFeed
    exact .letter rfl (by decide)
  · subst lineFeed
    exact .letter rfl (by decide)
  · subst carriageReturn
    exact .letter rfl (by decide)
  · subst tabulator
    exact .letter rfl (by decide)
  · exact writes_controlDigits control
  · exact .itself quote backslash control

/-- A character is read from each way of writing it. -/
theorem Writes.textTail?_append {c : Char} {written : List Char} (writes : Writes c written)
    (rest : List Char) : textTail? (written ++ rest) = consText c <$> textTail? rest := by
  cases writes with
  | letter stands unnumbered =>
      simp only [List.cons_append, List.nil_append]
      rw [textTail?.eq_3 _ _ fun _ _ _ _ _ numbered => (unnumbered numbered).elim, stands]
  | number four value =>
      rename_i digits
      match digits, four with
      | [a, b, c', d], _ =>
          simp only [List.cons_append, List.nil_append]
          rw [textTail?.eq_2, value]
          simp only [Text.characterOfNumber?_toNat]
  | itself quote backslash visible =>
      rw [List.singleton_append, textTail?.eq_4 _ _ quote
        (fun _ _ _ _ _ escaped => (backslash escaped).elim)
        (fun _ _ escaped => (backslash escaped).elim)]
      simp [visible, backslash]

theorem textTail?_flatMap_escape (text rest : List Char) :
    textTail? (text.flatMap escape ++ '\x22' :: rest) = some (text, rest) := by
  induction text with
  | nil => rw [List.flatMap_nil, List.nil_append, textTail?.eq_1]
  | cons c text ih =>
      rw [List.flatMap_cons, List.append_assoc, (writes_escape c).textTail?_append, ih]
      rfl

theorem text?_printText (text : String) (rest : List Char) :
    text? (printText text ++ rest) = some (text, rest) := by
  simp only [printText, List.cons_append, List.append_assoc, List.nil_append]
  simp [text?, textTail?_flatMap_escape]

end Json

end BenchSuite
