import BenchSuite.Proofs.Text.CharacterClasses
import BenchSuite.Proofs.Text.Pieces
import BenchSuite.Text.Lowercase

/-!
# Small forms between delimiters

The small form of a letter can depend on the text around it, but only as far as the next delimiter:
a blank, a comma, a dash or an angle bracket has no case and is not passed over where a letter is
looked at in its context.  Delimiters are their own small forms, and they are no other character's.
So what stands between two delimiters is lowercased as if it stood alone, and a text can as well be
cut and trimmed before it is lowercased as after.
-/

namespace BenchSuite.Text

section Delimiters

/-- The blanks, and the characters that have a meaning in selection expressions. -/
def delimiterRanges : Ranges :=
  blankRanges ++ [(0x2C, 0x2D), (0x3C, 0x3C), (0x3E, 0x3E)]

def isDelimiter (c : Char) : Bool :=
  delimiterRanges.contains c

variable {c d : Char}

theorem isDelimiter_of_isBlank (blank : isBlank c = true) : isDelimiter c = true := by
  obtain ⟨range, listed, inside⟩ := Ranges.contains_iff.mp blank
  exact Ranges.contains_iff.mpr ⟨range, List.mem_append_left _ listed, inside⟩

/-- Between two code points, both included, there is nothing that letter case is about. -/
def isCaseless (low high : Nat) : Bool :=
  casedRanges.avoid low high && caseIgnorableRanges.avoid low high &&
    caseRuns.all fun run =>
      (run.last < low || high < run.first) &&
        (run.target + (run.last - run.first) < low || high < run.target)

theorem isCaseless_of_mem_delimiterRanges :
    ∀ range ∈ delimiterRanges, isCaseless range.1 range.2 = true := by
  decide +kernel

theorem exists_isCaseless (delimits : isDelimiter c = true) :
    ∃ low high, isCaseless low high = true ∧ low ≤ c.toNat ∧ c.toNat ≤ high := by
  obtain ⟨range, listed, inside⟩ := Ranges.contains_iff.mp delimits
  exact ⟨range.1, range.2, isCaseless_of_mem_delimiterRanges range listed, inside⟩

theorem not_cased_of_isDelimiter (delimits : isDelimiter c = true) :
    casedRanges.contains c = false := by
  obtain ⟨low, high, caseless, above, below⟩ := exists_isCaseless delimits
  simp only [isCaseless, Bool.and_eq_true] at caseless
  exact Ranges.not_contains_of_avoid caseless.1.1 above below

theorem not_caseIgnorable_of_isDelimiter (delimits : isDelimiter c = true) :
    caseIgnorableRanges.contains c = false := by
  obtain ⟨low, high, caseless, above, below⟩ := exists_isCaseless delimits
  simp only [isCaseless, Bool.and_eq_true] at caseless
  exact Ranges.not_contains_of_avoid caseless.1.2 above below

theorem outside_of_isDelimiter {run : CaseRun} (delimits : isDelimiter c = true)
    (listed : run ∈ caseRuns) :
    (c.toNat < run.first ∨ run.last < c.toNat) ∧
      (c.toNat < run.target ∨ run.target + (run.last - run.first) < c.toNat) := by
  obtain ⟨low, high, caseless, above, below⟩ := exists_isCaseless delimits
  simp only [isCaseless, Bool.and_eq_true] at caseless
  have outside := List.all_eq_true.mp caseless.2 run listed
  simp only [Bool.and_eq_true, Bool.or_eq_true, decide_eq_true_eq] at outside
  omega

end Delimiters

section Characters

variable {c d : Char}

theorem CaseRun.covers_iff {run : CaseRun} {code : Nat} :
    run.covers code = true ↔
      (run.first ≤ code ∧ code ≤ run.last) ∧ (code - run.first) % run.step = 0 := by
  simp [CaseRun.covers]

theorem lowercaseChar_ne_nil (c : Char) : lowercaseChar c ≠ [] := by
  unfold lowercaseChar
  split
  · simp
  · split <;> simp

theorem lowercaseChar_of_isDelimiter (delimits : isDelimiter c = true) : lowercaseChar c = [c] := by
  have dotted : isDelimiter '\u0130' = false := by decide
  have dotless : c ≠ '\u0130' := by
    rintro rfl
    simp [dotted] at delimits
  have uncovered : caseRuns.find? (·.covers c.toNat) = none := by
    refine List.find?_eq_none.mpr fun run listed covers => ?_
    obtain ⟨⟨first, last⟩, -⟩ := CaseRun.covers_iff.mp covers
    have outside := (outside_of_isDelimiter delimits listed).1
    omega
  rw [lowercaseChar, if_neg dotless, uncovered]

theorem toNat_ofNat (code : Nat) :
    (Char.ofNat code).toNat = code ∨ (Char.ofNat code).toNat = 0 := by
  by_cases valid : code.isValidChar
  · rw [Char.ofNat, dif_pos valid]
    exact .inl rfl
  · rw [Char.ofNat, dif_neg valid]
    exact .inr rfl

theorem eq_of_isDelimiter_of_mem_lowercaseChar (delimits : isDelimiter d = true)
    (small : d ∈ lowercaseChar c) : d = c := by
  unfold lowercaseChar at small
  split at small
  · have letter : isDelimiter 'i' = false := by decide
    have dot : isDelimiter '\u0307' = false := by decide
    rcases List.mem_cons.mp small with rfl | small
    · simp [letter] at delimits
    · simp [List.mem_singleton.mp small, dot] at delimits
  · split at small
    · rename_i run found
      have listed := List.mem_of_find?_eq_some found
      have covers : run.covers c.toNat = true := by simpa using List.find?_some found
      obtain ⟨⟨first, last⟩, -⟩ := CaseRun.covers_iff.mp covers
      have outside := (outside_of_isDelimiter delimits listed).2
      have positive : d.toNat ≠ 0 := by
        intro zero
        obtain ⟨range, delimiting, above, -⟩ := Ranges.contains_iff.mp delimits
        have positive : ∀ range ∈ delimiterRanges, 0 < range.1 := by decide
        exact absurd (positive range delimiting) (by omega)
      rw [List.mem_singleton.mp small] at outside positive
      rcases toNat_ofNat (run.target + (c.toNat - run.first)) with same | zero
      · omega
      · exact (positive zero).elim
    · exact List.mem_singleton.mp small

/-- The small form of a character in its context. -/
def smallForm (before : List Char) (c : Char) (after : List Char) : List Char :=
  if c = '\u03a3' then [lowercaseSigma before after] else lowercaseChar c

theorem smallForm_ne_nil (before : List Char) (c : Char) (after : List Char) :
    smallForm before c after ≠ [] := by
  unfold smallForm
  split
  · simp
  · exact lowercaseChar_ne_nil c

theorem smallForm_of_isDelimiter {before after : List Char} (delimits : isDelimiter c = true) :
    smallForm before c after = [c] := by
  have sigma : isDelimiter '\u03a3' = false := by decide
  have noSigma : c ≠ '\u03a3' := by
    rintro rfl
    simp [sigma] at delimits
  rw [smallForm, if_neg noSigma, lowercaseChar_of_isDelimiter delimits]

theorem eq_of_isDelimiter_of_mem_smallForm {before after : List Char}
    (delimits : isDelimiter d = true) (small : d ∈ smallForm before c after) : d = c := by
  unfold smallForm at small
  split at small
  · have final : isDelimiter '\u03c2' = false := by decide
    have inner : isDelimiter '\u03c3' = false := by decide
    rw [List.mem_singleton.mp small, lowercaseSigma] at delimits
    split at delimits
    · simp [final] at delimits
    · simp [inner] at delimits
  · exact eq_of_isDelimiter_of_mem_lowercaseChar delimits small

theorem lowercaseAfter_cons (before : List Char) (c : Char) (rest : List Char) :
    lowercaseAfter before (c :: rest) =
      smallForm before c rest ++ lowercaseAfter (c :: before) rest :=
  rfl

end Characters

section Contexts

variable {mark : Char} (delimits : isDelimiter mark = true)

include delimits

theorem leadsWithCase_append (text rest : List Char) :
    leadsWithCase (text ++ mark :: rest) = leadsWithCase text := by
  induction text with
  | nil =>
      simp [leadsWithCase, not_caseIgnorable_of_isDelimiter delimits,
        not_cased_of_isDelimiter delimits]
  | cons c text ih =>
      unfold leadsWithCase at ih ⊢
      rw [List.cons_append]
      cases ignorable : caseIgnorableRanges.contains c with
      | true => rwa [List.dropWhile_cons_of_pos ignorable, List.dropWhile_cons_of_pos ignorable]
      | false =>
          have stops : ¬ caseIgnorableRanges.contains c = true := by simp [ignorable]
          rw [List.dropWhile_cons_of_neg stops, List.dropWhile_cons_of_neg stops]

theorem smallForm_append_right (before : List Char) (c : Char) (after rest : List Char) :
    smallForm before c (after ++ mark :: rest) = smallForm before c after := by
  simp only [smallForm, lowercaseSigma, leadsWithCase_append delimits]

theorem smallForm_append_left (before outer : List Char) (c : Char) (after : List Char) :
    smallForm (before ++ mark :: outer) c after = smallForm before c after := by
  simp only [smallForm, lowercaseSigma, leadsWithCase_append delimits]

/-- What stands before a delimiter has no part in what comes after it. -/
theorem lowercaseAfter_append_left (before outer text : List Char) :
    lowercaseAfter (before ++ mark :: outer) text = lowercaseAfter before text := by
  induction text generalizing before with
  | nil => rfl
  | cons c rest ih =>
      rw [lowercaseAfter_cons, lowercaseAfter_cons, smallForm_append_left delimits]
      exact congrArg _ (ih (c :: before))

theorem lowercaseAfter_append_right (before text rest : List Char) :
    lowercaseAfter before (text ++ mark :: rest) =
      lowercaseAfter before text ++ mark :: lowercaseAfter [] rest := by
  induction text generalizing before with
  | nil =>
      rw [List.nil_append, lowercaseAfter_cons, smallForm_of_isDelimiter delimits]
      exact congrArg _ (lowercaseAfter_append_left delimits [] before rest)
  | cons c text ih =>
      rw [List.cons_append, lowercaseAfter_cons, lowercaseAfter_cons, ih,
        smallForm_append_right delimits, List.append_assoc]

end Contexts

/-- A text in small letters. -/
def small (text : List Char) : List Char :=
  lowercaseAfter [] text

theorem toList_lowercase (text : String) : (lowercase text).toList = small text.toList :=
  String.toList_ofList

theorem ofList_small (text : List Char) :
    String.ofList (small text) = lowercase (String.ofList text) := by
  rw [lowercase, String.toList_ofList, small]

@[simp]
theorem small_nil : small [] = [] :=
  rfl

section Small

variable {mark : Char}

theorem small_append_cons (delimits : isDelimiter mark = true) (text rest : List Char) :
    small (text ++ mark :: rest) = small text ++ mark :: small rest :=
  lowercaseAfter_append_right delimits [] text rest

theorem small_cons (delimits : isDelimiter mark = true) (rest : List Char) :
    small (mark :: rest) = mark :: small rest :=
  small_append_cons delimits [] rest

/-- The small form of a text begins like the text as far as delimiters are concerned. -/
theorem exists_small_cons (c : Char) (rest : List Char) :
    ∃ d more, small (c :: rest) = d :: more ∧ (isDelimiter d = true → d = c) := by
  obtain ⟨d, more, begins⟩ := List.exists_cons_of_ne_nil (smallForm_ne_nil [] c rest)
  refine ⟨d, more ++ lowercaseAfter [c] rest, ?_, fun delimits => ?_⟩
  · rw [small, lowercaseAfter_cons, begins, List.cons_append]
  · exact eq_of_isDelimiter_of_mem_smallForm delimits (begins ▸ List.mem_cons_self)

theorem exists_lowercaseAfter_append (before text rest : List Char) :
    ∃ front, lowercaseAfter before (text ++ rest) =
      front ++ lowercaseAfter (text.reverse ++ before) rest := by
  induction text generalizing before with
  | nil => exact ⟨[], rfl⟩
  | cons c text ih =>
      obtain ⟨front, continues⟩ := ih (c :: before)
      refine ⟨smallForm before c (text ++ rest) ++ front, ?_⟩
      simp [lowercaseAfter_cons, continues]

/-- The small form of a text ends like the text as far as delimiters are concerned. -/
theorem exists_small_concat (text : List Char) (c : Char) :
    ∃ front d, small (text ++ [c]) = front ++ [d] ∧ (isDelimiter d = true → d = c) := by
  obtain ⟨front, ends⟩ := exists_lowercaseAfter_append [] text [c]
  rw [lowercaseAfter_cons, lowercaseAfter, List.append_nil, List.append_nil] at ends
  have nonempty := smallForm_ne_nil text.reverse c []
  have last := List.dropLast_append_getLast nonempty
  have inside := List.getLast_mem nonempty
  refine ⟨front ++ (smallForm text.reverse c []).dropLast,
    (smallForm text.reverse c []).getLast nonempty, ?_, fun delimits => ?_⟩
  · rw [small, ends, List.append_assoc, last]
  · exact eq_of_isDelimiter_of_mem_smallForm delimits inside

theorem small_eq_nil_iff {text : List Char} : small text = [] ↔ text = [] := by
  cases text with
  | nil => simp
  | cons c rest =>
      obtain ⟨d, more, begins, -⟩ := exists_small_cons c rest
      simp [begins]

theorem mem_of_mem_lowercaseAfter (delimits : isDelimiter mark = true) {before text : List Char}
    (member : mark ∈ lowercaseAfter before text) : mark ∈ text := by
  induction text generalizing before with
  | nil => cases member
  | cons c rest ih =>
      rw [lowercaseAfter_cons] at member
      rcases List.mem_append.mp member with here | later
      · rw [eq_of_isDelimiter_of_mem_smallForm delimits here]
        exact List.mem_cons_self
      · exact List.mem_cons_of_mem c (ih later)

theorem small_intercalate (delimits : isDelimiter mark = true) (pieces : List (List Char)) :
    small ([mark].intercalate pieces) = [mark].intercalate (pieces.map small) := by
  induction pieces with
  | nil => rfl
  | cons piece pieces ih =>
      cases pieces with
      | nil => simp
      | cons next pieces =>
          simp only [List.intercalate_cons_cons, List.map_cons] at ih ⊢
          simp only [List.append_assoc, List.singleton_append]
          rw [small_append_cons delimits, ih]

/-- A text can be cut before it is lowercased. -/
theorem splitOn_small (delimits : isDelimiter mark = true) (text : List Char) :
    (small text).splitOn mark = (text.splitOn mark).map small := by
  have clean : ∀ piece ∈ (text.splitOn mark).map small, mark ∉ piece := by
    intro piece member
    obtain ⟨part, found, rfl⟩ := List.mem_map.mp member
    rw [← cut_eq_splitOn] at found
    exact fun inside => not_mem_of_mem_cut found (mem_of_mem_lowercaseAfter delimits inside)
  have nonempty : (text.splitOn mark).map small ≠ [] := by
    rw [← cut_eq_splitOn]
    simpa using cut_ne_nil mark text
  calc (small text).splitOn mark
    _ = (small ([mark].intercalate (text.splitOn mark))).splitOn mark := by
        rw [List.intercalate_splitOn]
    _ = ([mark].intercalate ((text.splitOn mark).map small)).splitOn mark := by
        rw [small_intercalate delimits]
    _ = (text.splitOn mark).map small := List.splitOn_intercalate mark clean nonempty

theorem not_isBlank_of_not_isBlank {c d : Char} (same : isDelimiter d = true → d = c)
    (visible : isBlank c = false) : isBlank d = false := by
  cases blank : isBlank d with
  | false => rfl
  | true =>
      rw [same (isDelimiter_of_isBlank blank), visible] at blank
      cases blank

theorem trimStart_small (text : List Char) : trimStart (small text) = small (trimStart text) := by
  induction text with
  | nil => rfl
  | cons c rest ih =>
      cases blank : isBlank c with
      | true =>
          rw [small_cons (isDelimiter_of_isBlank blank), trimStart, trimStart,
            List.dropWhile_cons_of_pos blank, List.dropWhile_cons_of_pos blank]
          exact ih
      | false =>
          obtain ⟨d, more, begins, same⟩ := exists_small_cons c rest
          have visible : isBlank d = false := not_isBlank_of_not_isBlank same blank
          rw [trimStart, trimStart, List.dropWhile_cons_of_neg (by simp [blank]), begins,
            List.dropWhile_cons_of_neg (by simp [visible])]

theorem trimEnd_small (text : List Char) : trimEnd (small text) = small (trimEnd text) := by
  induction text using List.reverseRecOn with
  | nil => rfl
  | append_singleton text c ih =>
      cases blank : isBlank c with
      | true =>
          rw [small_append_cons (isDelimiter_of_isBlank blank), small_nil]
          simpa [trimEnd, blank] using ih
      | false =>
          obtain ⟨front, d, ends, same⟩ := exists_small_concat text c
          have visible : isBlank d = false := not_isBlank_of_not_isBlank same blank
          rw [ends]
          simp [trimEnd, visible, blank, ends]

/-- A text can be trimmed before it is lowercased. -/
theorem trim_small (text : List Char) : trim (small text) = small (trim text) := by
  rw [trim, trim, trimStart_small, trimEnd_small]

end Small

end BenchSuite.Text
