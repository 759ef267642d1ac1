import BenchSuite.CommandLine.Choice
import BenchSuite.Proofs.Names.SmallLetters
import BenchSuite.Proofs.Selection.PrintedForm

/-!
# Expressions in small letters

An expression is lowercased as a whole before it is read as a choice.  Where it is a well-formed
expression already, this makes no difference to lowercasing each of its names alone: the commas,
dashes, brackets and blanks between the names keep their places, so that the pieces of the
expression in small letters are its pieces in small letters, and the names stay names.
-/

namespace BenchSuite

theorem pieces_lowercase (expression : String) :
    pieces (Text.lowercase expression) = (pieces expression).map Text.small := by
  have comma : Text.isDelimiter ',' = true := by decide
  have keeps : (fun piece => decide (piece ≠ [])) ∘ Text.small =
      fun piece => decide (piece ≠ []) := by
    funext piece
    simp [Text.small_eq_nil_iff]
  rw [pieces, pieces, Text.toList_lowercase, Text.splitOn_small comma, List.map_map,
    ← keeps, ← List.filter_map, keeps, List.map_map]
  simp only [Function.comp_def, Text.trim_small]

theorem small_bracketed (inside : List Char) :
    Text.small (bracketed inside) = bracketed (Text.small inside) := by
  have opening : Text.isDelimiter '<' = true := by decide
  have closing : Text.isDelimiter '>' = true := by decide
  rw [bracketed, bracketed, Text.small_cons opening, Text.small_append_cons closing, Text.small_nil]

def Pattern.lowercase : Pattern → Pattern
  | .name benchmark => .name (Text.lowercase benchmark)
  | .tag group => .tag (Text.lowercase group)

/-- The entry with its text, taken on its own, in small letters. -/
def Entry.lowercase (entry : Entry) : Entry :=
  ⟨entry.operator, Text.lowercase entry.text⟩

/-- The selection with its text and the name in its pattern, each taken on its own, in small
letters. -/
def Selection.lowercase (selection : Selection) : Selection :=
  ⟨selection.operator, Text.lowercase selection.text, selection.pattern.lowercase⟩

/-- Only a dash has a dash for its small form, so no other piece becomes an exclusion. -/
theorem Entry.ofTrimmed_small (piece : List Char) :
    ofTrimmed (Text.small piece) = (ofTrimmed piece).lowercase := by
  have dash : Text.isDelimiter '-' = true := by decide
  cases piece with
  | nil => rfl
  | cons c rest =>
      by_cases excludes : c = '-'
      · subst excludes
        rw [Text.small_cons dash, ofTrimmed, ofTrimmed, lowercase, ← Text.ofList_small]
      · obtain ⟨d, more, begins, same⟩ := Text.exists_small_cons c rest
        have dashless : d ≠ '-' := fun here => excludes (same (here ▸ dash) ▸ here)
        have included : ofTrimmed (c :: rest) = ⟨.inclusion, String.ofList (c :: rest)⟩ :=
          ofTrimmed_of_dashless (by simpa using excludes)
        rw [included, lowercase, ← Text.ofList_small, begins]
        exact ofTrimmed_of_dashless (by simpa using dashless)

namespace Pattern

theorem parse_lowercase {text : String} {pattern : Pattern} (parsed : parse text = .ok pattern) :
    parse (Text.lowercase text) = .ok pattern.lowercase := by
  by_cases delimited : ∃ inside, text.toList = bracketed inside
  · obtain ⟨inside, delimited⟩ := delimited
    rw [parse_of_bracketed delimited] at parsed
    cases checked : NameRule.strict.check (String.ofList inside) with
    | error error =>
        rw [checked] at parsed
        cases parsed
    | ok name =>
        obtain ⟨allowed, rfl⟩ := NameRule.check_eq_ok_iff.mp checked
        rw [checked] at parsed
        cases parsed
        have allowed : NameRule.strict.Allows (String.ofList (Text.small inside)) := by
          rw [NameRule.strict_allows_iff, String.toList_ofList] at allowed ⊢
          exact allowed.small
        have delimited : (Text.lowercase text).toList = bracketed (Text.small inside) := by
          rw [Text.toList_lowercase, delimited, small_bracketed]
        rw [parse_of_bracketed delimited, NameRule.check_eq_ok_iff.mpr ⟨allowed, rfl⟩,
          Text.ofList_small]
        rfl
  · have unbracketed : ∀ inside, text.toList ≠ bracketed inside :=
      fun inside same => delimited ⟨inside, same⟩
    rw [parse_of_unbracketed unbracketed] at parsed
    cases checked : NameRule.numericStart.check text with
    | error error =>
        rw [parseName, checked] at parsed
        cases parsed
    | ok name =>
        obtain ⟨allowed, rfl⟩ := NameRule.check_eq_ok_iff.mp checked
        rw [parseName, checked] at parsed
        cases parsed
        have spelling := (NameRule.numericStart_allows_iff.mp allowed).lowercase
        have unbracketed : ∀ inside, (Text.lowercase name).toList ≠ bracketed inside :=
          fun inside same => not_isBenchmarkSpelling_bracketed inside (same ▸ spelling)
        have allowed := NameRule.numericStart_allows_iff.mpr spelling
        rw [parse_of_unbracketed unbracketed, parseName,
          NameRule.check_eq_ok_iff.mpr ⟨allowed, rfl⟩]
        rfl

end Pattern

namespace Selection

variable {text : String} {selections : List Selection}

theorem ofEntry_lowercase {entry : Entry} {selection : Selection}
    (built : ofEntry entry = .ok selection) :
    ofEntry entry.lowercase = .ok selection.lowercase := by
  obtain ⟨rfl, parsed⟩ := ofEntry_eq_ok_iff.mp built
  exact ofEntry_eq_ok_iff.mpr ⟨rfl, Pattern.parse_lowercase parsed⟩

theorem parse_lowercase (parsed : parse text = .ok selections) :
    parse (Text.lowercase text) = .ok (selections.map lowercase) := by
  rw [parse_eq_mapM] at parsed ⊢
  rw [pieces_lowercase]
  refine mapM_map_of_mapM_eq_ok (fun piece selection built => ?_) parsed
  rw [Entry.ofTrimmed_small]
  exact ofEntry_lowercase built

/-- Lowercasing goes along with reading: whatever is accepted as an expression is accepted as a
choice, unless it is the word for no benchmarks, and the choice holds the same selections in the
same order, with the same operators, names as names and tags as tags.  Each text and each name is
that of the expression in small letters as if it stood alone, even if a letter in it depends on its
context or becomes two characters. -/
theorem choice_parse_lowercase (other : text ≠ Choice.nothingWord)
    (parsed : parse text = .ok selections) :
    Choice.parse text = .ok (.selections (selections.map lowercase)) := by
  rw [Choice.parse, if_neg other, parse_lowercase parsed]
  rfl

/-- The sigma at the end of a name is a final one, whatever follows behind the name, and the dotted
capital I becomes two characters. -/
theorem choice_parse_sigmas :
    let text := " -<ΟΔΟΣ>,ΣΑΣ-Σ , İΣ"
    text ≠ Choice.nothingWord ∧
    parse text = .ok [⟨.exclusion, "<ΟΔΟΣ>", .tag "ΟΔΟΣ"⟩, ⟨.inclusion, "ΣΑΣ-Σ", .name "ΣΑΣ-Σ"⟩,
      ⟨.inclusion, "İΣ", .name "İΣ"⟩] ∧
    Choice.parse text = .ok (.selections [⟨.exclusion, "<οδος>", .tag "οδος"⟩,
      ⟨.inclusion, "σας-σ", .name "σας-σ"⟩, ⟨.inclusion, "i̇ς", .name "i̇ς"⟩]) := by
  intro text
  have other : text ≠ Choice.nothingWord := by decide +kernel
  have parsed : parse text = .ok [⟨.exclusion, "<ΟΔΟΣ>", .tag "ΟΔΟΣ"⟩,
      ⟨.inclusion, "ΣΑΣ-Σ", .name "ΣΑΣ-Σ"⟩, ⟨.inclusion, "İΣ", .name "İΣ"⟩] := by
    decide +kernel
  refine ⟨other, parsed, ?_⟩
  rw [choice_parse_lowercase other parsed]
  decide +kernel

end Selection

end BenchSuite
