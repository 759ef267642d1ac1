import BenchSuite.Proofs.Selection.Covering
import BenchSuite.Proofs.Selection.Grammar

/-!
# The printed form of selections

A selection that has been read can be printed and read again without loss, alone or in a list.  Two
things are needed for this.  The dash of an exclusion must be found again in front of its text, also
where the text begins with a dash of its own, which holds of every entry.  And no text may hold a
comma: this is not so of entries, since tokens need not come from an expression, but it is so of the
references of the grammar.
-/

namespace BenchSuite

theorem Pattern.IsMeantBy.render_eq {pattern : Pattern} {text : String}
    (meant : pattern.IsMeantBy text.toList) : pattern.render = text := by
  apply String.toList_inj.mp
  cases pattern with
  | name benchmark => exact (((meant.name_iff benchmark).mp rfl).2).symm
  | tag group =>
      rw [(meant.tag_iff group).mp rfl]
      simp [render, bracketed]

namespace Selection

def entry (selection : Selection) : Entry :=
  ⟨selection.operator, selection.text⟩

theorem render_entry (selection : Selection) : selection.entry.render = selection.render :=
  rfl

theorem ofEntry_eq_ok_iff {entry : Entry} {selection : Selection} :
    ofEntry entry = .ok selection ↔
      selection.entry = entry ∧ Pattern.parse entry.text = .ok selection.pattern := by
  obtain ⟨operator, text⟩ := entry
  obtain ⟨operator', text', pattern'⟩ := selection
  unfold ofEntry
  cases Pattern.parse text with
  | ok pattern =>
      change Except.ok _ = Except.ok _ ↔ _
      simp [Selection.entry, eq_comm, and_assoc]
  | error error =>
      change Except.error _ = Except.ok _ ↔ _
      simp

/-- The selection is what its printed form is read as. -/
structure Printable (selection : Selection) : Prop where
  token : Entry.ofToken? selection.render = some selection.entry
  entry : ofEntry selection.entry = .ok selection

namespace Printable

variable {selection : Selection} (printable : selection.Printable)

include printable

theorem parse_text : Pattern.parse selection.text = .ok selection.pattern :=
  (ofEntry_eq_ok_iff.mp printable.entry).2

theorem text_eq : selection.text = selection.pattern.render := by
  obtain ⟨-, meant⟩ := (Pattern.ends_parse selection.text).of_ok printable.parse_text
  exact meant.render_eq.symm

theorem comma_not_mem : ',' ∉ selection.render.toList := by
  obtain ⟨wellFormed, -⟩ := (Pattern.ends_parse selection.text).of_ok printable.parse_text
  have clean := wellFormed.comma_not_mem
  unfold render Operator.mark
  cases selection.operator <;> simpa using clean

end Printable

/-- Every selection that is read from tokens is printable, wherever the tokens come from. -/
theorem printable_of_parseTokens {tokens : List String} {selections : List Selection}
    (parsed : parseTokens tokens = .ok selections) :
    ∀ selection ∈ selections, selection.Printable := by
  have each : ∀ entry ∈ Entry.ofTokens tokens,
      Ends (ofEntry entry) (fun selection => selection.Printable) fun _ => True := by
    intro entry listed
    obtain ⟨token, -, read⟩ := List.mem_filterMap.mp listed
    cases built : ofEntry entry with
    | error error => trivial
    | ok selection =>
        obtain ⟨rfl, -⟩ := ofEntry_eq_ok_iff.mp built
        have token := Entry.ofToken?_render read
        rw [render_entry] at token
        exact ⟨token, built⟩
  rw [parseTokens, Entry.buildAll] at parsed
  have printable := (Ends.mapM each).of_ok parsed
  clear parsed each
  generalize Entry.ofTokens tokens = entries at printable
  induction printable with
  | nil => simp
  | cons head _ ih => exact List.forall_mem_cons.mpr ⟨head, ih⟩

variable {selections : List Selection}

theorem ofTokens_map_render (printable : ∀ selection ∈ selections, selection.Printable) :
    Entry.ofTokens (selections.map render) = selections.map entry := by
  induction selections with
  | nil => rfl
  | cons selection rest ih =>
      obtain ⟨head, tail⟩ := List.forall_mem_cons.mp printable
      rw [List.map_cons, Entry.ofTokens, List.filterMap_cons_some head.token, ← Entry.ofTokens,
        ih tail, List.map_cons]

theorem mapM_entry (printable : ∀ selection ∈ selections, selection.Printable) :
    selections.mapM (fun selection => ofEntry selection.entry) = .ok selections := by
  induction selections with
  | nil => rfl
  | cons selection rest ih =>
      obtain ⟨head, tail⟩ := List.forall_mem_cons.mp printable
      rw [List.mapM_cons, head.entry, ih tail]
      rfl

theorem parseTokens_map_render (printable : ∀ selection ∈ selections, selection.Printable) :
    parseTokens (selections.map render) = .ok selections := by
  rw [parseTokens, Entry.buildAll, ofTokens_map_render printable, List.mapM_map]
  exact mapM_entry printable

theorem parse_renderAll (printable : ∀ selection ∈ selections, selection.Printable) :
    parse (renderAll selections) = .ok selections := by
  by_cases none : selections = []
  · -- Nothing is printed as the empty expression, which has one token, a blank one.
    subst none
    rfl
  · have clean : ∀ text ∈ selections.map render, ',' ∉ text.toList := by
      simpa using fun selection listed => (printable selection listed).comma_not_mem
    rw [parse, renderAll, tokens_intercalate (by simpa using none) clean]
    exact parseTokens_map_render printable

/-- Printing the selections loses nothing: they are read again from one expression and from a list
of tokens, and each text is the printed form of its pattern. -/
structure ReadBack (selections : List Selection) : Prop where
  expression : parse (renderAll selections) = .ok selections
  tokens : parseTokens (selections.map render) = .ok selections
  texts : ∀ selection ∈ selections, selection.text = selection.pattern.render

theorem readBack_of_printable (printable : ∀ selection ∈ selections, selection.Printable) :
    ReadBack selections where
  expression := parse_renderAll printable
  tokens := parseTokens_map_render printable
  texts selection listed := (printable selection listed).text_eq

/-- Selections that have been read, from an expression or from tokens, are read again from their
printed form.  The same holds of each of them alone, and of those that a resolution reports because
they mean nothing. -/
theorem readBack_of_parsed
    (parsed : (∃ expression, parse expression = .ok selections) ∨
      ∃ tokens, parseTokens tokens = .ok selections) :
    ReadBack selections ∧ (∀ selection ∈ selections, ReadBack [selection]) ∧
      ∀ catalog : Catalog, ReadBack (catalog.resolve selections).unmatched := by
  have printable : ∀ selection ∈ selections, selection.Printable := by
    obtain ⟨expression, parsed⟩ | ⟨tokens, parsed⟩ := parsed
    · exact printable_of_parseTokens parsed
    · exact printable_of_parseTokens parsed
  refine ⟨readBack_of_printable printable, fun selection listed => ?_, fun catalog => ?_⟩
  · apply readBack_of_printable
    simpa using printable selection listed
  · apply readBack_of_printable
    intro selection reported
    rw [Catalog.resolve_eq] at reported
    exact printable selection (List.mem_of_mem_filter reported)

theorem readBack_of_doubled_dash :
    ReadBack [⟨.exclusion, "<apps>", .tag "apps"⟩, ⟨.exclusion, "-a", .name "-a"⟩,
      ⟨.inclusion, "2to3", .name "2to3"⟩] := by
  have parsed : parse " -<apps> ,, --a,2to3" =
      .ok [⟨.exclusion, "<apps>", .tag "apps"⟩, ⟨.exclusion, "-a", .name "-a"⟩,
        ⟨.inclusion, "2to3", .name "2to3"⟩] := by
    decide +kernel
  exact (readBack_of_parsed (.inl ⟨_, parsed⟩)).1

end Selection

end BenchSuite
