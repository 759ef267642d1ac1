import BenchSuite.Proofs.Files.Following

/-!
# Paths of ordinary names

A path that is written with ordinary names and one slash between any two of them is held by the path
without the last name.  It is the last name put behind this directory.
-/

namespace BenchSuite.Path

/-- A name that a file or a directory can have. -/
structure IsOrdinary (name : String) : Prop where
  nonempty : name ≠ ""
  notHere : name ≠ "."
  notAbove : name ≠ ".."
  whole : '/' ∉ name.toList

/-- The path along the names. -/
def ofNames (names : List String) : Path :=
  ⟨"/".intercalate names⟩

variable {names : List String} {name : String}

theorem IsOrdinary.toList_ne_dot (ordinary : IsOrdinary name) : name.toList ≠ ['.'] :=
  fun same => ordinary.notHere (String.toList_inj.mp same)

theorem IsOrdinary.not_isIdle (ordinary : IsOrdinary name) : isIdle name.toList = false := by
  simp [isIdle, ordinary.nonempty, ordinary.toList_ne_dot]

theorem IsOrdinary.isRelative (ordinary : IsOrdinary name) : IsRelative ⟨name⟩ where
  nonempty := ordinary.nonempty
  unrooted := by
    refine beq_eq_false_iff_ne.mpr fun rooted => ordinary.whole ?_
    exact List.mem_of_head? rooted

/-- Neither a root nor a dot is in front of an ordinary name. -/
theorem IsOrdinary.splitStart_append (ordinary : IsOrdinary name) (rest : List Char) :
    splitStart (name.toList ++ rest) = ([], name.toList ++ rest) := by
  have nonempty : name.toList ≠ [] := by simpa using ordinary.nonempty
  have notHere := ordinary.toList_ne_dot
  have whole := ordinary.whole
  generalize name.toList = chars at nonempty notHere whole
  obtain ⟨c, chars, rfl⟩ := List.exists_cons_of_ne_nil nonempty
  rw [List.cons_append]
  unfold splitStart
  split
  · rename_i same
    cases same
    exact (whole List.mem_cons_self).elim
  · rename_i same
    cases same
    cases chars with
    | nil => exact (notHere rfl).elim
    | cons d chars =>
        have other : d ≠ '/' := by
          rintro rfl
          exact whole (List.mem_cons_of_mem _ List.mem_cons_self)
        simp [other]
  · rfl

theorem toList_ofNames (names : List String) :
    (ofNames names).text.toList = ['/'].intercalate (names.map String.toList) := by
  simp [ofNames]

theorem splitStart_ofNames (ordinary : ∀ name ∈ names, IsOrdinary name) :
    splitStart (ofNames names).text.toList = ([], (ofNames names).text.toList) := by
  rw [toList_ofNames]
  cases names with
  | nil => rfl
  | cons name names =>
      have first := ordinary name List.mem_cons_self
      cases names with
      | nil => simpa using first.splitStart_append []
      | cons next names =>
          simp only [List.map_cons, List.intercalate_cons_cons, List.append_assoc]
          exact first.splitStart_append _

theorem pieces_ofNames (nonempty : names ≠ []) (ordinary : ∀ name ∈ names, IsOrdinary name) :
    pieces (ofNames names).text.toList = names.map String.toList := by
  rw [toList_ofNames]
  refine Text.cut_intercalate (by simpa using nonempty) fun piece member => ?_
  obtain ⟨name, listed, rfl⟩ := List.mem_map.mp member
  exact (ordinary name listed).whole

theorem dropIdle_map (ordinary : ∀ name ∈ names, IsOrdinary name) :
    dropIdle (names.map String.toList) = names.map String.toList := by
  refine List.rdropWhile_eq_self_iff.mpr fun nonempty => ?_
  obtain ⟨name, listed, same⟩ := List.mem_map.mp (List.getLast_mem nonempty)
  simp [← same, (ordinary name listed).not_isIdle]

/-- What is reached by ordinary names is held by what is reached by all of them but the last. -/
theorem parent?_ofNames (ordinary : ∀ other ∈ names ++ [name], IsOrdinary other) :
    (ofNames (names ++ [name])).parent? = some (ofNames names) := by
  have others : ∀ other ∈ names, IsOrdinary other :=
    fun other listed => ordinary other (List.mem_append_left [name] listed)
  rw [parent?, splitStart_ofNames ordinary]
  simp only [pieces_ofNames (by simp) ordinary, dropIdle_map ordinary]
  split
  · rename_i nothing
    simp at nothing
  · simp only [List.map_append, List.map_cons, List.map_nil, List.dropLast_concat,
      dropIdle_map others, List.nil_append, ← toList_ofNames, String.ofList_toList]

theorem exists_ofNames_concat (names : List String) (name : String) :
    ∃ front, (ofNames (names ++ [name])).text = front ++ name := by
  by_cases nonempty : names = []
  · exact ⟨"", by simp [ofNames, nonempty]⟩
  · refine ⟨"/".intercalate names ++ "/", ?_⟩
    rw [ofNames, String.intercalate_append_of_ne_nil nonempty (by simp),
      String.intercalate_singleton]

theorem gap_ofNames (nonempty : names ≠ []) (ordinary : ∀ name ∈ names, IsOrdinary name) :
    (ofNames names).gap = "/" := by
  obtain ⟨before, last, rfl⟩ := (List.eq_nil_or_concat' names).resolve_left nonempty
  have ordinary := ordinary last (by simp)
  obtain ⟨front, ends⟩ := exists_ofNames_concat before last
  obtain ⟨chars, c, ends'⟩ :=
    (List.eq_nil_or_concat' last.toList).resolve_left (by simpa using ordinary.nonempty)
  have other : c ≠ '/' := by
    rintro rfl
    exact ordinary.whole (by simp [ends'])
  simp [gap, hasTrailingSlash, ends, ends', other, ordinary.nonempty]

theorem ofNames_concat (nonempty : names ≠ []) (ordinary : ∀ name ∈ names, IsOrdinary name)
    (last : IsOrdinary name) : ofNames (names ++ [name]) = (ofNames names).join ⟨name⟩ := by
  have same : (ofNames (names ++ [name])).text = ((ofNames names).join ⟨name⟩).text := by
    rw [text_join last.isRelative.unrooted, gap_ofNames nonempty ordinary, ofNames,
      String.intercalate_append_of_ne_nil nonempty (by simp), String.intercalate_singleton]
    rfl
  exact congrArg mk same

end BenchSuite.Path
