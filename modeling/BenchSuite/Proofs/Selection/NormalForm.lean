import BenchSuite.CommandLine.Choice
import BenchSuite.Proofs.Selection.Rearranging

/-!
# The normal form of expressions

The entries of an expression, printed with commas between them, are an expression with the same
entries.  So one reading brings an expression into a form that further readings keep, although the
text behind the dash of an exclusion may begin with blanks and with further dashes, and may even be
empty.  The text of an inclusion can be none of this, so that a list of variables is read again from
the names alone.
-/

namespace BenchSuite

variable {expression : String}

namespace Entry

def renderAll (entries : List Entry) : String :=
  ",".intercalate (entries.map render)

/-- What holds of the text of an entry that has been read from an expression. -/
structure IsNormal (entry : Entry) : Prop where
  comma : ',' ∉ entry.text.toList
  last : ∀ c, entry.text.toList.getLast? = some c → Text.isBlank c = false
  first : entry.operator = .inclusion →
    ∃ c, entry.text.toList.head? = some c ∧ Text.isBlank c = false ∧ c ≠ '-'

theorem ofTokens_tokens (expression : String) :
    ofTokens (tokens expression) = (pieces expression).map ofTrimmed := by
  rw [ofTokens_eq_map, written_tokens]

/-- The printed entries are the pieces that they have been read from. -/
theorem renderAll_ofTokens (expression : String) :
    renderAll (ofTokens (tokens expression)) = tidy expression := by
  have same (piece : List Char) : (ofTrimmed piece).render = String.ofList piece := by
    rw [← String.toList_inj, toList_render_ofTrimmed, String.toList_ofList]
  rw [renderAll, tidy, ofTokens_tokens, List.map_map]
  exact congrArg _ (List.map_congr_left fun piece _ => same piece)

theorem ofTokens_renderAll (expression : String) :
    ofTokens (tokens (renderAll (ofTokens (tokens expression)))) =
      ofTokens (tokens expression) := by
  rw [renderAll_ofTokens, ofTokens_tokens, ofTokens_tokens, pieces_tidy]

theorem isNormal_ofTrimmed {piece : List Char} (member : piece ∈ pieces expression) :
    (ofTrimmed piece).IsNormal := by
  have trimmed := trim_of_mem_pieces member
  have clean := comma_not_mem_of_mem_pieces member
  have nonempty := (mem_pieces_iff.mp member).1
  by_cases dash : piece.head? = some '-'
  · -- What is left of the piece behind its dash still ends where the piece does.
    obtain ⟨text, rfl⟩ := List.head?_eq_some_iff.mp dash
    refine ⟨?_, fun c last => ?_, nofun⟩
    · simpa [ofTrimmed] using clean
    · have ends : ('-' :: text).getLast? = some c := by
        rw [ofTrimmed, String.toList_ofList] at last
        rw [List.getLast?_cons, last]
        rfl
      exact Text.not_isBlank_of_getLast?_trim (trimmed.symm ▸ ends)
  · rw [ofTrimmed_of_dashless dash]
    obtain ⟨c, rest, rfl⟩ := List.exists_cons_of_ne_nil nonempty
    refine ⟨by simpa using clean, fun c last => ?_, fun _ => ⟨c, by simp, ?_, ?_⟩⟩
    · rw [String.toList_ofList, ← trimmed] at last
      exact Text.not_isBlank_of_getLast?_trim last
    · have begins : (Text.trim (c :: rest)).head? = some c := by rw [trimmed, List.head?_cons]
      exact Text.not_isBlank_of_head?_trim begins
    · simpa using dash

theorem isNormal_of_mem {entry : Entry} (member : entry ∈ ofTokens (tokens expression)) :
    entry.IsNormal := by
  rw [ofTokens_tokens] at member
  obtain ⟨piece, found, rfl⟩ := List.mem_map.mp member
  exact isNormal_ofTrimmed found

end Entry

section Variables

theorem variableOfEntry_ofTrimmed_eq_ok_iff {piece : List Char} {name : String} :
    variableOfEntry (Entry.ofTrimmed piece) = .ok name ↔
      piece.head? ≠ some '-' ∧ String.ofList piece = name := by
  by_cases dash : piece.head? = some '-'
  · obtain ⟨text, rfl⟩ := List.head?_eq_some_iff.mp dash
    simp [Entry.ofTrimmed, variableOfEntry]
  · simp [Entry.ofTrimmed_of_dashless dash, variableOfEntry, dash]

theorem parseVariables_eq_mapM (expression : String) :
    parseVariables expression =
      (pieces expression).mapM fun piece => variableOfEntry (Entry.ofTrimmed piece) := by
  rw [parseVariables, Entry.buildAll, Entry.ofTokens_tokens, List.mapM_map]
  rfl

theorem exists_parseVariables_iff :
    (∃ names, parseVariables expression = .ok names) ↔
      ∀ piece ∈ pieces expression, piece.head? ≠ some '-' := by
  rw [parseVariables_eq_mapM, exists_mapM_eq_ok_iff]
  simp [variableOfEntry_ofTrimmed_eq_ok_iff]

/-- The names are the pieces of the list, as they stand. -/
theorem names_eq_of_parseVariables {names : List String}
    (parsed : parseVariables expression = .ok names) :
    names = (pieces expression).map String.ofList := by
  have dashless := exists_parseVariables_iff.mp ⟨names, parsed⟩
  rw [parseVariables_eq_mapM] at parsed
  rw [← filterMap_of_mapM_eq_ok parsed, ← List.filterMap_eq_map]
  refine List.filterMap_congr fun piece member => ?_
  rw [variableOfEntry_ofTrimmed_eq_ok_iff.mpr ⟨dashless piece member, rfl⟩]
  rfl

theorem parseVariables_intercalate {names : List String}
    (parsed : parseVariables expression = .ok names) :
    parseVariables (",".intercalate names) = .ok names := by
  have joined : ",".intercalate names = tidy expression := by
    rw [names_eq_of_parseVariables parsed, tidy]
  rw [joined, parseVariables_eq_mapM, pieces_tidy, ← parseVariables_eq_mapM, parsed]

end Variables

/-- Reading an expression brings it into a normal form: the entries are read again from what they
are printed as.  No text of an entry holds a comma or ends with a blank, and the text of an
inclusion is not empty and begins neither with a blank nor with a dash.  So a list of variables that
is accepted is read again from its names, and it is refused if and only if one of its pieces begins
with a dash. -/
theorem Entry.expression_normalForm (expression : String) :
    let entries := ofTokens (tokens expression)
    ofTokens (tokens (renderAll entries)) = entries ∧
    (∀ entry ∈ entries, entry.IsNormal) ∧
    (∀ names, parseVariables expression = .ok names →
      parseVariables (",".intercalate names) = .ok names) ∧
    ((∃ error, parseVariables expression = .error error) ↔
      ∃ piece ∈ pieces expression, piece.head? = some '-') := by
  refine ⟨ofTokens_renderAll expression, fun entry => isNormal_of_mem,
    fun names => parseVariables_intercalate, ?_⟩
  have refused : (∃ error, parseVariables expression = .error error) ↔
      ¬ ∃ names, parseVariables expression = .ok names := by
    cases parseVariables expression <;> simp
  rw [refused, exists_parseVariables_iff]
  simp

-- A dash with blanks behind it, a doubled dash and a lone one.
example : Entry.ofTokens (tokens " -  a ,, --b , - ") =
    [⟨.exclusion, "  a"⟩, ⟨.exclusion, "-b"⟩, ⟨.exclusion, ""⟩] := by
  decide +kernel

end BenchSuite
