import BenchSuite.Proofs.Names.Spelling
import BenchSuite.Proofs.Text.SmallForms

/-!
# Names in small letters

Lowercasing turns the spelling of a benchmark, and that of a tag, into such a spelling again, and it
brings no dash to the beginning of one.  This rests on a fact about the tables of characters, which
are not of the same age: a capital letter that may stand in a word has a small form that may begin a
word.

The fact is checked run by run.  The small forms of almost every run of capital letters lie in one
range of word beginnings.  Of the other runs some hold no letters of words at all, and one has gaps,
so that its letters are looked at one by one.
-/

namespace BenchSuite

namespace Text

/-- The table of word beginnings lists numbers of characters only, and none of surrogates. -/
theorem isValidChar_of_mem_wordStartRanges : ∀ range ∈ wordStartRanges,
    range.2 < 0xD800 ∨ 0xDFFF < range.1 ∧ range.2 < 0x110000 := by
  decide +kernel

theorem isWordStart_ofNat_of_hold {low high code : Nat}
    (holds : wordStartRanges.hold low high = true) (above : low ≤ code) (below : code ≤ high) :
    isWordStart (Char.ofNat code) = true := by
  obtain ⟨range, listed, first, last⟩ := Ranges.hold_iff.mp holds
  have valid : code.isValidChar := by
    have characters := isValidChar_of_mem_wordStartRanges range listed
    unfold Nat.isValidChar
    omega
  have toNat : (Char.ofNat code).toNat = code := by
    rw [Char.ofNat, dif_pos valid]
    rfl
  have starts : wordStartRanges.contains (Char.ofNat code) = true := by
    rw [Ranges.contains_iff, toNat]
    exact ⟨range, listed, by omega, by omega⟩
  simp [isWordStart, starts]

namespace CaseRun

/-- Between two offsets, the small forms of the run may begin words, or the capital letters are no
characters of words. -/
def keepsBetween (run : CaseRun) (low high : Nat) : Bool :=
  wordStartRanges.hold (run.target + low) (run.target + high) ||
    wordStartRanges.avoid (run.first + low) (run.first + high) &&
      wordTailRanges.avoid (run.first + low) (run.first + high)

/-- The run as a whole keeps words, or else each of its letters does. -/
def keepsWords (run : CaseRun) : Bool :=
  run.keepsBetween 0 (run.last - run.first) ||
    (List.range (run.last - run.first + 1)).all fun offset =>
      offset % run.step != 0 || run.keepsBetween offset offset

theorem keepsWords_of_mem : ∀ run ∈ caseRuns, run.keepsWords = true := by
  decide +kernel

variable {run : CaseRun} {c : Char}

theorem isWordStart_of_keepsBetween {low high offset : Nat}
    (keeps : run.keepsBetween low high = true) (above : low ≤ offset) (below : offset ≤ high)
    (place : c.toNat = run.first + offset) (part : isWordPart c = true) :
    isWordStart (Char.ofNat (run.target + offset)) = true := by
  rcases Bool.or_eq_true_iff.mp keeps with holds | avoids
  · exact isWordStart_ofNat_of_hold holds (by omega) (by omega)
  · obtain ⟨starts, tails⟩ := Bool.and_eq_true_iff.mp avoids
    have refused : isWordPart c = false :=
      not_isWordPart_of_avoid starts tails (by omega) (by omega)
    simp [refused] at part

theorem isWordStart_smallForm (keeps : run.keepsWords = true) (covers : run.covers c.toNat = true)
    (part : isWordPart c = true) :
    isWordStart (Char.ofNat (run.target + (c.toNat - run.first))) = true := by
  obtain ⟨⟨first, last⟩, aligned⟩ := covers_iff.mp covers
  have place : c.toNat = run.first + (c.toNat - run.first) := by omega
  rcases Bool.or_eq_true_iff.mp keeps with together | apart
  · exact isWordStart_of_keepsBetween together (by omega) (by omega) place part
  · have inside : c.toNat - run.first ∈ List.range (run.last - run.first + 1) :=
      List.mem_range.mpr (by omega)
    have alone : run.keepsBetween (c.toNat - run.first) (c.toNat - run.first) = true := by
      simpa [aligned] using List.all_eq_true.mp apart _ inside
    exact isWordStart_of_keepsBetween alone (Nat.le_refl _) (Nat.le_refl _) place part

end CaseRun

/-- What the special small forms are made of: three letters may begin words, and the dot above may
stand in them. -/
theorem isWordStart_specialLetters :
    isWordStart 'i' = true ∧ isWordStart '\u03c2' = true ∧ isWordStart '\u03c3' = true ∧
      isWordPart '\u0307' = true := by
  decide +kernel

theorem isWordStart_lowercaseSigma (before after : List Char) :
    isWordStart (lowercaseSigma before after) = true := by
  obtain ⟨-, final, inner, -⟩ := isWordStart_specialLetters
  rw [lowercaseSigma]
  split
  · exact final
  · exact inner

/-- The small form of a character of words is made of such characters. -/
theorem isWordPart_of_mem_lowercaseChar {c d : Char} (part : isWordPart c = true)
    (small : d ∈ lowercaseChar c) : isWordPart d = true := by
  unfold lowercaseChar at small
  split at small
  · obtain ⟨letter, -, -, dot⟩ := isWordStart_specialLetters
    rcases List.mem_cons.mp small with rfl | small
    · exact isWordPart_of_isWordStart letter
    · rw [List.mem_singleton.mp small]
      exact dot
  · split at small
    · rename_i run found
      have keeps := CaseRun.keepsWords_of_mem run (List.mem_of_find?_eq_some found)
      have covers : run.covers c.toNat = true := by simpa using List.find?_some found
      rw [List.mem_singleton.mp small]
      exact isWordPart_of_isWordStart (CaseRun.isWordStart_smallForm keeps covers part)
    · rwa [List.mem_singleton.mp small]

/-- What may begin a word has a small form that begins so, too. -/
theorem exists_lowercaseChar_eq_cons {c : Char} (starts : isWordStart c = true) :
    ∃ first rest, lowercaseChar c = first :: rest ∧ isWordStart first = true := by
  unfold lowercaseChar
  split
  · exact ⟨'i', ['\u0307'], rfl, isWordStart_specialLetters.1⟩
  · split
    · rename_i run found
      have keeps := CaseRun.keepsWords_of_mem run (List.mem_of_find?_eq_some found)
      have covers : run.covers c.toNat = true := by simpa using List.find?_some found
      exact ⟨_, [], rfl,
        CaseRun.isWordStart_smallForm keeps covers (isWordPart_of_isWordStart starts)⟩
    · exact ⟨c, [], rfl, starts⟩

theorem isWordPart_of_mem_smallForm {before after : List Char} {c d : Char}
    (part : isWordPart c = true) (small : d ∈ smallForm before c after) : isWordPart d = true := by
  unfold smallForm at small
  split at small
  · rw [List.mem_singleton.mp small]
    exact isWordPart_of_isWordStart (isWordStart_lowercaseSigma before after)
  · exact isWordPart_of_mem_lowercaseChar part small

theorem exists_smallForm_eq_cons {c : Char} (starts : isWordStart c = true)
    (before after : List Char) :
    ∃ first rest, smallForm before c after = first :: rest ∧ isWordStart first = true := by
  unfold smallForm
  split
  · exact ⟨_, [], rfl, isWordStart_lowercaseSigma before after⟩
  · exact exists_lowercaseChar_eq_cons starts

end Text

theorem IsNameCharacter.of_mem_smallForm {before after : List Char} {c d : Char}
    (character : IsNameCharacter c) (small : d ∈ Text.smallForm before c after) :
    IsNameCharacter d := by
  rcases character with rfl | part
  · have dash : Text.isDelimiter '-' = true := by decide
    rw [Text.smallForm_of_isDelimiter dash] at small
    exact .inl (List.mem_singleton.mp small)
  · exact .inr (Text.isWordPart_of_mem_smallForm part small)

theorem isNameCharacter_of_mem_lowercaseAfter {before text : List Char}
    (characters : ∀ c ∈ text, IsNameCharacter c) :
    ∀ d ∈ Text.lowercaseAfter before text, IsNameCharacter d := by
  induction text generalizing before with
  | nil => simp [Text.lowercaseAfter]
  | cons c rest ih =>
      obtain ⟨head, tail⟩ := List.forall_mem_cons.mp characters
      intro d member
      rw [Text.lowercaseAfter_cons] at member
      rcases List.mem_append.mp member with small | later
      · exact head.of_mem_smallForm small
      · exact ih tail d later

/-- The name of a benchmark is one also in small letters. -/
theorem IsBenchmarkSpelling.small {text : List Char} (spelling : IsBenchmarkSpelling text) :
    IsBenchmarkSpelling (Text.small text) :=
  ⟨Text.small_eq_nil_iff.not.mpr spelling.1, isNameCharacter_of_mem_lowercaseAfter spelling.2⟩

theorem IsBenchmarkSpelling.lowercase {name : String} (spelling : IsBenchmarkSpelling name.toList) :
    IsBenchmarkSpelling (Text.lowercase name).toList := by
  rw [Text.toList_lowercase]
  exact spelling.small

/-- So is that of a tag: the small form of its first character may begin a word, too. -/
theorem IsTagSpelling.small {text : List Char} (spelling : IsTagSpelling text) :
    IsTagSpelling (Text.small text) := by
  obtain ⟨-, characters⟩ := spelling.isBenchmarkSpelling.small
  obtain ⟨c, rest, rfl, starts, -⟩ := spelling
  obtain ⟨first, more, begins, starts⟩ := Text.exists_smallForm_eq_cons starts [] rest
  rw [Text.small, Text.lowercaseAfter_cons, begins, List.cons_append] at characters ⊢
  exact ⟨first, _, rfl, starts, (List.forall_mem_cons.mp characters).2⟩

/-- A plain name is plain also in small letters: only a dash has a dash for its small form. -/
theorem IsPlainName.lowercase {name : String} (plain : IsPlainName name) :
    IsPlainName (Text.lowercase name) := by
  refine ⟨plain.spelling.lowercase, ?_⟩
  obtain ⟨c, rest, text⟩ := List.exists_cons_of_ne_nil plain.spelling.1
  obtain ⟨d, more, begins, same⟩ := Text.exists_small_cons c rest
  have dash : Text.isDelimiter '-' = true := by decide
  rw [Text.toList_lowercase, text, begins, List.head?_cons]
  rintro ⟨rfl⟩
  exact plain.dashless (by rw [text, ← same dash, List.head?_cons])

end BenchSuite
