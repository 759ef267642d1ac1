import BenchSuite.Proofs.Names.Spelling
import BenchSuite.Proofs.Selection.Entries
import Mathlib.Data.List.Forall2

/-!
# The grammar of selection expressions

An expression is cut at every comma, and the blanks around its pieces and the pieces of blanks only
are dropped.  A piece may begin with one dash, and the rest of it is a tag between angle brackets or
the name of a benchmark.  The reader accepts exactly the expressions all of whose pieces are of this
form, and otherwise it blames the first piece that is not.

The grammar is said here of characters alone, without the entries, the patterns and the name rules
by way of which an expression is read.
-/

namespace BenchSuite

/-- A text between angle brackets. -/
def bracketed (inside : List Char) : List Char :=
  '<' :: (inside ++ ['>'])

/-- A tag between angle brackets, or the name of a benchmark. -/
def IsReference (text : List Char) : Prop :=
  (∃ inside, text = bracketed inside ∧ IsTagSpelling inside) ∨ IsBenchmarkSpelling text

/-- The part of a text that is to blame if the text is no reference: what stands between angle
brackets at its ends if there are any, and otherwise all of it. -/
inductive ToBlame : List Char → String → Prop
  | inside (inside : List Char) : ToBlame (bracketed inside) (String.ofList inside)
  | whole {text : List Char} (unbracketed : ∀ inside, text ≠ bracketed inside) :
      ToBlame text (String.ofList text)

theorem bracketed_injective : Function.Injective bracketed := by
  intro first second same
  simpa [bracketed] using same

theorem not_isBenchmarkSpelling_bracketed (inside : List Char) :
    ¬ IsBenchmarkSpelling (bracketed inside) := by
  rintro ⟨-, characters⟩
  exact (characters '<' (by simp [bracketed])).ne_delimiter.2.1 rfl

theorem isReference_bracketed_iff {inside : List Char} :
    IsReference (bracketed inside) ↔ IsTagSpelling inside := by
  constructor
  · rintro (⟨inside', same, spelling⟩ | spelling)
    · rwa [bracketed_injective same]
    · exact (not_isBenchmarkSpelling_bracketed inside spelling).elim
  · exact fun spelling => .inl ⟨inside, rfl, spelling⟩

theorem isReference_iff_of_unbracketed {text : List Char}
    (unbracketed : ∀ inside, text ≠ bracketed inside) :
    IsReference text ↔ IsBenchmarkSpelling text := by
  constructor
  · rintro (⟨inside, same, -⟩ | spelling)
    · exact (unbracketed inside same).elim
    · exact spelling
  · exact .inr

theorem IsReference.comma_not_mem {text : List Char} (reference : IsReference text) :
    ',' ∉ text := by
  have clean {text : List Char} (spelling : IsBenchmarkSpelling text) : ',' ∉ text :=
    fun member => (spelling.2 ',' member).ne_delimiter.1 rfl
  rcases reference with ⟨inside, rfl, spelling⟩ | spelling
  · simpa [bracketed] using clean spelling.isBenchmarkSpelling
  · exact clean spelling

namespace Pattern

/-- The pattern is a tag exactly where its text stands between angle brackets, and otherwise a
name. -/
structure IsMeantBy (pattern : Pattern) (text : List Char) : Prop where
  tag_iff : ∀ tag, pattern = .tag tag ↔ text = bracketed tag.toList
  name_iff : ∀ name, pattern = .name name ↔
    (∀ inside, text ≠ bracketed inside) ∧ text = name.toList

theorem interior?_eq_some_iff {text inside : List Char} :
    interior? text = some inside ↔ text = bracketed inside := by
  constructor
  · intro found
    unfold interior? at found
    split at found
    · rename_i rest
      split at found
      · rename_i closed
        obtain ⟨front, rfl⟩ := List.getLast?_eq_some_iff.mp closed
        simpa [bracketed, eq_comm] using found
      · cases found
    · cases found
  · rintro rfl
    simp [interior?, bracketed]

theorem parse_of_bracketed {text : String} {inside : List Char}
    (delimited : text.toList = bracketed inside) :
    parse text = Pattern.tag <$> NameRule.strict.check (String.ofList inside) := by
  have found : interior? text.toList = some inside := interior?_eq_some_iff.mpr delimited
  simp only [parse, parseTag, found]
  cases NameRule.strict.check (String.ofList inside) <;> rfl

theorem parse_of_unbracketed {text : String}
    (unbracketed : ∀ inside, text.toList ≠ bracketed inside) : parse text = parseName text := by
  have none : interior? text.toList = none := by
    cases found : interior? text.toList with
    | none => rfl
    | some inside => exact (unbracketed inside (interior?_eq_some_iff.mp found)).elim
  unfold parse parseTag
  rw [none]
  rfl

/-- A text is read as a pattern exactly if it is a reference, and then as its brackets say. -/
theorem ends_parse (text : String) :
    Ends (parse text) (fun pattern => IsReference text.toList ∧ pattern.IsMeantBy text.toList)
      (fun error => ¬ IsReference text.toList ∧ ToBlame text.toList error.name) := by
  by_cases delimited : ∃ inside, text.toList = bracketed inside
  · obtain ⟨inside, delimited⟩ := delimited
    rw [parse_of_bracketed delimited, delimited, isReference_bracketed_iff,
      ← String.toList_ofList (l := inside), ← NameRule.strict_allows_iff, String.toList_ofList]
    cases checked : NameRule.strict.check (String.ofList inside) with
    | ok name =>
        obtain ⟨allowed, rfl⟩ := NameRule.check_eq_ok_iff.mp checked
        refine ⟨allowed, fun tag => ?_, fun name => ?_⟩
        · rw [bracketed_injective.eq_iff, Pattern.tag.injEq, ← String.toList_inj,
            String.toList_ofList]
        · exact iff_of_false nofun fun ⟨unbracketed, _⟩ => unbracketed inside rfl
    | error error =>
        obtain ⟨blamed, refused⟩ := NameRule.check_eq_error_iff.mp checked
        refine ⟨by simp [NameRule.Allows, refused], ?_⟩
        rw [blamed]
        exact .inside inside
  · have unbracketed : ∀ inside, text.toList ≠ bracketed inside :=
      fun inside same => delimited ⟨inside, same⟩
    rw [parse_of_unbracketed unbracketed, isReference_iff_of_unbracketed unbracketed,
      ← NameRule.numericStart_allows_iff]
    unfold parseName
    cases checked : NameRule.numericStart.check text with
    | ok name =>
        obtain ⟨allowed, rfl⟩ := NameRule.check_eq_ok_iff.mp checked
        refine ⟨allowed, fun tag => ?_, fun name => ?_⟩
        · simpa using unbracketed tag.toList
        · simp [String.toList_inj, unbracketed]
    | error error =>
        obtain ⟨blamed, refused⟩ := NameRule.check_eq_error_iff.mp checked
        refine ⟨by simp [NameRule.Allows, refused], ?_⟩
        rw [blamed]
        simpa using ToBlame.whole unbracketed

end Pattern

/-- The pieces of an expression: what stands between its commas, without the blanks around it, as
far as anything is left. -/
def pieces (expression : String) : List (List Char) :=
  ((expression.toList.splitOn ',').map Text.trim).filter (· ≠ [])

/-- What a piece refers to, without the dash that marks an exclusion. -/
def reference : List Char → List Char
  | '-' :: text => text
  | text => text

theorem written_tokens (expression : String) :
    Entry.written (tokens expression) = pieces expression := by
  simp [Entry.written, tokens, pieces, Text.cut_eq_splitOn, Function.comp_def]

namespace Entry

theorem text_ofTrimmed (piece : List Char) :
    (ofTrimmed piece).text = String.ofList (reference piece) := by
  unfold ofTrimmed
  split
  · rfl
  · rename_i dashless
    rw [reference.eq_def]
    split
    · rename_i text
      exact (dashless text rfl).elim
    · rfl

theorem operator_ofTrimmed_eq_exclusion_iff (piece : List Char) :
    (ofTrimmed piece).operator = .exclusion ↔ piece.head? = some '-' := by
  unfold ofTrimmed
  split
  · simp
  · rename_i dashless
    cases piece with
    | nil => simp
    | cons c rest => simpa using fun dash => dashless rest (by rw [dash])

end Entry

namespace Selection

/-- The selection that a piece stands for. -/
structure IsMeantBy (selection : Selection) (piece : List Char) : Prop where
  excludes_iff : selection.operator = .exclusion ↔ piece.head? = some '-'
  text : selection.text = String.ofList (reference piece)
  pattern : selection.pattern.IsMeantBy (reference piece)

theorem ends_ofEntry_ofTrimmed (piece : List Char) :
    Ends (ofEntry (Entry.ofTrimmed piece))
      (fun selection => IsReference (reference piece) ∧ selection.IsMeantBy piece)
      (fun error => ¬ IsReference (reference piece) ∧ ToBlame (reference piece) error.name) := by
  have text : (Entry.ofTrimmed piece).text.toList = reference piece := by
    rw [Entry.text_ofTrimmed, String.toList_ofList]
  have parsed := Pattern.ends_parse (Entry.ofTrimmed piece).text
  rw [text] at parsed
  refine Ends.bind parsed fun pattern ⟨spelled, meant⟩ => ⟨spelled, ?_⟩
  exact ⟨Entry.operator_ofTrimmed_eq_exclusion_iff piece, Entry.text_ofTrimmed piece, meant⟩

theorem parse_eq_mapM (expression : String) :
    parse expression = (pieces expression).mapM fun piece => ofEntry (Entry.ofTrimmed piece) := by
  rw [parse, parseTokens, Entry.buildAll, Entry.ofTokens_eq_map, written_tokens, List.mapM_map]
  rfl

/-- Reading an expression accepts exactly the grammar.  There is then one selection for every piece,
in order, which excludes exactly if the piece begins with a dash and is a tag exactly if its
reference stands between angle brackets.  Otherwise the first piece whose reference is malformed is
blamed, and what stands between angle brackets is never taken for a name. -/
theorem parse_exact (expression : String) :
    ((∃ selections, parse expression = .ok selections) ↔
        ∀ piece ∈ pieces expression, IsReference (reference piece)) ∧
      (∀ selections, parse expression = .ok selections →
        List.Forall₂ (fun piece selection => selection.IsMeantBy piece) (pieces expression)
          selections) ∧
      ∀ error, parse expression = .error error →
        ∃ before piece after, pieces expression = before ++ piece :: after ∧
          (∀ earlier ∈ before, IsReference (reference earlier)) ∧
            ¬ IsReference (reference piece) ∧ ToBlame (reference piece) error.name := by
  have ends : Ends (parse expression) _ _ :=
    parse_eq_mapM expression ▸ Ends.mapM fun piece _ => ends_ofEntry_ofTrimmed piece
  have accepted {selections : List Selection} (parsed : parse expression = .ok selections) :
      (∀ piece ∈ pieces expression, IsReference (reference piece)) ∧
        List.Forall₂ (fun piece selection => selection.IsMeantBy piece) (pieces expression)
          selections :=
    (List.forall₂_and_left _ _).mp (ends.of_ok parsed)
  refine ⟨⟨?_, fun spelled => ?_⟩, fun selections parsed => (accepted parsed).2,
    fun error parsed => ?_⟩
  · rintro ⟨selections, parsed⟩
    exact (accepted parsed).1
  · refine (ends.exists_ok ?_).imp fun selections parsed => parsed.1
    rintro error ⟨before, piece, after, split, -, malformed, -⟩
    exact malformed (spelled piece (by simp [split]))
  · obtain ⟨before, piece, after, split, spelled, refused⟩ := ends.of_error parsed
    refine ⟨before, piece, after, split, fun earlier member => ?_, refused⟩
    obtain ⟨-, wellFormed, -⟩ := spelled earlier member
    exact wellFormed

end Selection

end BenchSuite
