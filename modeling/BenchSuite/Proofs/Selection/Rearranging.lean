import BenchSuite.Proofs.Selection.Covering
import BenchSuite.Proofs.Selection.Grammar
import BenchSuite.Proofs.Selection.Guarding
import Mathlib.Data.List.Perm.Basic

/-!
# Rearranged expressions

All that matters of an expression is its pieces: an expression made of them and of nothing else is
resolved in the same way.  And since a selection counts by being there, wherever it stands and how
often, the same pieces in another order are malformed alike or select the same benchmarks.  The order
is seen only in the selections that are reported because they mean nothing, and so is how often a
piece is repeated.
-/

namespace BenchSuite

section Pieces

variable {expression : String} {piece : List Char}

theorem mem_pieces_iff :
    piece ∈ pieces expression ↔
      piece ≠ [] ∧ ∃ part ∈ Text.cut ',' expression.toList, Text.trim part = piece := by
  simp [pieces, Text.cut_eq_splitOn, and_comm]

theorem trim_of_mem_pieces (member : piece ∈ pieces expression) : Text.trim piece = piece := by
  obtain ⟨-, part, -, rfl⟩ := mem_pieces_iff.mp member
  exact Text.trim_trim part

theorem comma_not_mem_of_mem_pieces (member : piece ∈ pieces expression) : ',' ∉ piece := by
  obtain ⟨-, part, found, rfl⟩ := mem_pieces_iff.mp member
  exact fun comma => Text.not_mem_of_mem_cut found (Text.trim_subset part comma)

/-- The pieces of an expression, with a comma between any two of them and nothing else. -/
def tidy (expression : String) : String :=
  ",".intercalate ((pieces expression).map String.ofList)

theorem pieces_tidy (expression : String) : pieces (tidy expression) = pieces expression := by
  by_cases none : pieces expression = []
  · rw [tidy, none]
    decide +kernel
  · have clean : ∀ text ∈ (pieces expression).map String.ofList, ',' ∉ text.toList := by
      simpa using fun piece => comma_not_mem_of_mem_pieces
    have trimmed : (pieces expression).map Text.trim = pieces expression :=
      (List.map_congr_left fun piece => trim_of_mem_pieces).trans (List.map_id' _)
    have nonempty : ∀ piece ∈ pieces expression, piece ≠ [] :=
      fun piece member => (mem_pieces_iff.mp member).1
    rw [← written_tokens, tidy, tokens_intercalate (by simpa using none) clean, Entry.written,
      List.map_map]
    simpa [Function.comp_def, trimmed] using nonempty

example : tidy " b ,, -<a>, " = "b,-<a>" := by decide +kernel

end Pieces

namespace Selection

variable {expression : String} {selections : List Selection}

/-- The selection that a piece stands for, unless the piece is malformed. -/
def ofPiece? (piece : List Char) : Option Selection :=
  (ofEntry (Entry.ofTrimmed piece)).toOption

theorem exists_parse_iff :
    (∃ selections, parse expression = .ok selections) ↔
      ∀ piece ∈ pieces expression,
        ∃ selection, ofEntry (Entry.ofTrimmed piece) = .ok selection := by
  rw [parse_eq_mapM]
  exact exists_mapM_eq_ok_iff

theorem filterMap_pieces_of_parse (parsed : parse expression = .ok selections) :
    (pieces expression).filterMap ofPiece? = selections := by
  rw [parse_eq_mapM] at parsed
  exact filterMap_of_mapM_eq_ok parsed

end Selection

/-- The lists hold the same selections, in any order and any number of times. -/
def SameSelections (first second : List Selection) : Prop :=
  ∀ selection, selection ∈ first ↔ selection ∈ second

/-- Two resolutions both fail on a malformed name, or they select the same benchmarks, in the same
order, and report selections between which a relation holds. -/
inductive SameOutcome (reports : List Selection → List Selection → Prop) :
    Except SelectionError Resolution → Except SelectionError Resolution → Prop
  | malformed (error error' : NameError) :
      SameOutcome reports (.error (.malformed error)) (.error (.malformed error'))
  | resolved {first second : Resolution} (benchmarks : first.benchmarks = second.benchmarks)
      (reported : reports first.unmatched second.unmatched) :
      SameOutcome reports (.ok first) (.ok second)

namespace Catalog

variable {catalog : Catalog}

theorem selects_congr {first second : List Selection} (same : SameSelections first second)
    (benchmark : String) :
    catalog.Selects first benchmark ↔ catalog.Selects second benchmark := by
  simp only [Selects, same _]

theorem resolve_benchmarks_congr {first second : List Selection}
    (same : SameSelections first second) :
    (catalog.resolve first).benchmarks = (catalog.resolve second).benchmarks := by
  simp only [resolve_eq, selects_congr same]

/-- Expressions with the same pieces are malformed alike or select the same benchmarks, so that they
can differ only in what they report. -/
theorem sameOutcome_of_pieces {reports : List Selection → List Selection → Prop}
    {first second : String} (same : ∀ piece, piece ∈ pieces first ↔ piece ∈ pieces second)
    (reported : reports
      (catalog.resolve ((pieces first).filterMap Selection.ofPiece?)).unmatched
      (catalog.resolve ((pieces second).filterMap Selection.ofPiece?)).unmatched) :
    SameOutcome reports (catalog.resolveText none first) (catalog.resolveText none second) := by
  have succeed : (∃ selections, Selection.parse first = .ok selections) ↔
      ∃ selections, Selection.parse second = .ok selections := by
    simp only [Selection.exists_parse_iff, same]
  cases readFirst : Selection.parse first with
  | error error =>
      cases readSecond : Selection.parse second with
      | error error' =>
          rw [resolveText_of_malformed readFirst, resolveText_of_malformed readSecond]
          exact .malformed error error'
      | ok selections' =>
          obtain ⟨selections, read⟩ := succeed.mpr ⟨selections', readSecond⟩
          rw [readFirst] at read
          cases read
  | ok selections =>
      obtain ⟨selections', readSecond⟩ := succeed.mp ⟨selections, readFirst⟩
      have found := Selection.filterMap_pieces_of_parse readFirst
      have found' := Selection.filterMap_pieces_of_parse readSecond
      have sameSelections : SameSelections selections selections' := by
        intro selection
        simp only [← found, ← found', List.mem_filterMap, same]
      rw [found, found'] at reported
      rw [resolveText_of_parse readFirst, resolveText_of_parse readSecond]
      exact .resolved (resolve_benchmarks_congr sameSelections) reported

theorem resolveText_congr {guard : Option NegationGuard} {first second : String}
    (same : pieces first = pieces second) :
    catalog.resolveText guard first = catalog.resolveText guard second := by
  simp only [resolveText, Selection.parse_eq_mapM, same]

/-- Expressions with the same pieces in another order are malformed alike, or select the same
benchmarks and report the same selections in another order.  If pieces are repeated as well, they
are still malformed alike, or select the same benchmarks and report the same selections, not
necessarily as often.  Nothing but the pieces matters, whatever the guard: neither the blanks around
them nor the commas with no more than blanks between them. -/
theorem resolveText_rearranged (catalog : Catalog) (first second : String) :
    ((pieces first).Perm (pieces second) →
      SameOutcome List.Perm (catalog.resolveText none first) (catalog.resolveText none second)) ∧
    ((∀ piece, piece ∈ pieces first ↔ piece ∈ pieces second) →
      SameOutcome SameSelections (catalog.resolveText none first)
        (catalog.resolveText none second)) ∧
    ∀ guard,
      (pieces first = pieces second →
        catalog.resolveText guard first = catalog.resolveText guard second) ∧
      catalog.resolveText guard first = catalog.resolveText guard (tidy first) := by
  refine ⟨fun permuted => ?_, fun same => ?_, fun guard => ⟨resolveText_congr, ?_⟩⟩
  · apply sameOutcome_of_pieces fun piece => permuted.mem_iff
    simp only [resolve_eq]
    exact (permuted.filterMap _).filter _
  · apply sameOutcome_of_pieces same
    intro selection
    simp only [resolve_eq, List.mem_filter, List.mem_filterMap, same]
  · exact resolveText_congr (pieces_tidy first).symm

end Catalog

end BenchSuite
