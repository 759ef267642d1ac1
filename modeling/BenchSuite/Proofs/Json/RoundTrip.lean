import BenchSuite.Proofs.Json.Texts

/-!
# Printed JSON is read again

A printed value is read as itself, and reading stops right behind it.  The blanks that are printed
stand where reading skips them, in front of items and closing brackets.  A limit on the depth of the
reading that is as large as the printed form is long is never reached.

Numbers are left out, which reports do not hold: a number has no closing character, and what stands
behind it may go on with it.
-/

namespace BenchSuite.Json

/-- A value in which there is no number. -/
inductive Numberless : Json → Prop
  | null : Numberless .null
  | bool (value : Bool) : Numberless (.bool value)
  | string (text : String) : Numberless (.string text)
  | array {items : List Json} (each : ∀ item ∈ items, Numberless item) :
      Numberless (.array items)
  | object {fields : List (String × Json)} (each : ∀ field ∈ fields, Numberless field.2) :
      Numberless (.object fields)

/-- The value is read from its printed form, whatever stands behind it. -/
def ReadsBack (json : Json) : Prop :=
  ∀ depth limit rest, (json.print depth).length ≤ limit →
    value? limit (json.print depth ++ rest) = some (json, rest)

theorem skipBlanks_newLine (depth : Nat) (text : List Char) :
    skipBlanks (newLine depth ++ text) = skipBlanks text := by
  apply List.dropWhile_append_of_pos
  intro c blank
  rcases List.mem_cons.mp blank with rfl | space
  · rfl
  · rw [List.eq_of_mem_replicate space]
    rfl

theorem skipBlanks_cons {c : Char} (solid : isBlank c = false) (text : List Char) :
    skipBlanks (c :: text) = c :: text :=
  List.dropWhile_cons_of_neg (by simp [solid])

theorem skipBlanks_space (text : List Char) : skipBlanks (' ' :: text) = skipBlanks text :=
  List.dropWhile_cons_of_pos rfl

theorem skipBlanks_printText (text : String) (rest : List Char) :
    skipBlanks (printText text ++ rest) = printText text ++ rest :=
  skipBlanks_cons rfl _

theorem number?_begins {text : List Char} {read : Json × List Char}
    (reads : number? text = some read) :
    ∃ c tail, text = c :: tail ∧ isBlank c = false ∧ c ≠ ']' := by
  cases text with
  | nil => cases reads
  | cons c tail =>
      refine ⟨c, tail, rfl, ?_, ?_⟩
      · cases blank : isBlank c with
        | false => rfl
        | true =>
            simp only [isBlank, Bool.or_eq_true, beq_iff_eq] at blank
            rcases blank with ((rfl | rfl) | rfl) | rfl <;> cases reads
      · rintro rfl
        cases reads

/-- No value begins with a blank or a bracket that closes one. -/
theorem value?_begins {limit : Nat} {text : List Char} {read : Json × List Char}
    (reads : value? limit text = some read) :
    ∃ c tail, text = c :: tail ∧ isBlank c = false ∧ c ≠ ']' := by
  cases limit with
  | zero => cases reads
  | succ limit =>
      unfold value? at reads
      split at reads
      case h_7 => exact number?_begins reads
      all_goals exact ⟨_, _, rfl, rfl, by decide⟩

theorem value?_array {limit : Nat} {text : List Char}
    (filled : (skipBlanks text).head? ≠ some ']') :
    value? (limit + 1) ('[' :: text) =
      (fun read => (.array read.1, read.2)) <$> items? limit (skipBlanks text) := by
  rw [value?]
  split
  · next closing => simp [closing] at filled
  · cases items? limit (skipBlanks text) <;> rfl

theorem value?_object {limit : Nat} {text : List Char}
    (filled : (skipBlanks text).head? ≠ some '\x7d') :
    value? (limit + 1) ('\x7b' :: text) =
      (fun read => (.object read.1, read.2)) <$> fields? limit (skipBlanks text) := by
  rw [value?]
  split
  · next closing => simp [closing] at filled
  · cases fields? limit (skipBlanks text) <;> rfl

section

variable {limit : Nat} {text before behind rest : List Char}

theorem items?_last {item : Json} (reads : value? limit (skipBlanks text) = some (item, behind))
    (closes : skipBlanks behind = ']' :: rest) :
    items? (limit + 1) text = some ([item], rest) := by
  simp [items?, reads, closes]

theorem items?_more {item : Json} {items : List Json} {left : List Char}
    (reads : value? limit (skipBlanks text) = some (item, behind))
    (separates : skipBlanks behind = ',' :: rest) (more : items? limit rest = some (items, left)) :
    items? (limit + 1) text = some (item :: items, left) := by
  simp [items?, reads, separates, more]

theorem fields?_last {name : String} {value : Json}
    (names : text? (skipBlanks text) = some (name, ':' :: ' ' :: before))
    (reads : value? limit (skipBlanks before) = some (value, behind))
    (closes : skipBlanks behind = '\x7d' :: rest) :
    fields? (limit + 1) text = some ([(name, value)], rest) := by
  simp [fields?, names, skipBlanks_cons (c := ':') rfl, skipBlanks_space, reads, closes]

theorem fields?_more {name : String} {value : Json} {fields : List (String × Json)}
    {left : List Char} (names : text? (skipBlanks text) = some (name, ':' :: ' ' :: before))
    (reads : value? limit (skipBlanks before) = some (value, behind))
    (separates : skipBlanks behind = ',' :: rest)
    (more : fields? limit rest = some (fields, left)) :
    fields? (limit + 1) text = some ((name, value) :: fields, left) := by
  simp [fields?, names, skipBlanks_cons (c := ':') rfl, skipBlanks_space, reads, separates, more]

theorem items?_newLine (depth : Nat) :
    items? limit (newLine depth ++ text) = items? limit text := by
  cases limit with
  | zero => rfl
  | succ limit => simp only [items?, skipBlanks_newLine]

theorem fields?_newLine (depth : Nat) :
    fields? limit (newLine depth ++ text) = fields? limit text := by
  cases limit with
  | zero => rfl
  | succ limit => simp only [fields?, skipBlanks_newLine]

end

theorem ReadsBack.skipBlanks_print {json : Json} (readsBack : ReadsBack json) (depth : Nat)
    (rest : List Char) : skipBlanks (json.print depth ++ rest) = json.print depth ++ rest := by
  obtain ⟨c, tail, begins, solid, -⟩ := value?_begins (readsBack depth _ rest (Nat.le_refl _))
  rw [begins, skipBlanks_cons solid]

theorem ReadsBack.value?_print {json : Json} (readsBack : ReadsBack json) {depth limit : Nat}
    (enough : (json.print depth).length ≤ limit) (rest : List Char) :
    value? limit (skipBlanks (json.print depth ++ rest)) = some (json, rest) := by
  rw [readsBack.skipBlanks_print]
  exact readsBack depth limit rest enough

/-- Printed items are read up to the closing bracket.  Each of them takes one from the limit, and
what is left still covers the forms of the others. -/
theorem items?_print {depth outer : Nat} {rest : List Char} {items : List Json} :
    ∀ {item : Json} {limit : Nat}, (∀ each ∈ item :: items, ReadsBack each) →
      (item.print depth).length + (printItems depth items).length < limit →
      items? limit
          (item.print depth ++ (printItems depth items ++ (newLine outer ++ ']' :: rest))) =
        some (item :: items, rest) := by
  induction items with
  | nil =>
      intro item limit each enough
      have first : ReadsBack item := each item (by simp)
      obtain ⟨limit, rfl⟩ := Nat.exists_eq_add_one_of_ne_zero (show limit ≠ 0 by omega)
      apply items?_last (first.value?_print (by omega) _)
      rw [printItems, List.nil_append, skipBlanks_newLine, skipBlanks_cons rfl]
  | cons next items ih =>
      intro item limit each enough
      have first : ReadsBack item := each item (by simp)
      obtain ⟨limit, rfl⟩ := Nat.exists_eq_add_one_of_ne_zero (show limit ≠ 0 by omega)
      simp only [printItems, List.length_cons, List.length_append] at enough
      apply items?_more (first.value?_print (by omega) _)
      · simp only [printItems, List.cons_append, List.append_assoc]
        exact skipBlanks_cons rfl _
      · rw [items?_newLine]
        exact ih (fun each' among => each each' (List.mem_cons_of_mem _ among)) (by omega)

theorem text?_skipBlanks_printText (name : String) (rest : List Char) :
    text? (skipBlanks (printText name ++ rest)) = some (name, rest) := by
  rw [skipBlanks_printText, text?_printText]

/-- Printed fields are read up to the closing brace, as items are up to the bracket. -/
theorem fields?_print {depth outer : Nat} {rest : List Char} {fields : List (String × Json)} :
    ∀ {name : String} {value : Json} {limit : Nat},
      (∀ field ∈ (name, value) :: fields, ReadsBack field.2) →
      (value.print depth).length + (printFields depth fields).length < limit →
      fields? limit
          (printText name ++ (':' :: ' ' :: (value.print depth ++
            (printFields depth fields ++ (newLine outer ++ '\x7d' :: rest))))) =
        some ((name, value) :: fields, rest) := by
  induction fields with
  | nil =>
      intro name value limit each enough
      have first : ReadsBack value := each (name, value) (by simp)
      obtain ⟨limit, rfl⟩ := Nat.exists_eq_add_one_of_ne_zero (show limit ≠ 0 by omega)
      apply fields?_last (text?_skipBlanks_printText _ _) (first.value?_print (by omega) _)
      rw [printFields, List.nil_append, skipBlanks_newLine, skipBlanks_cons rfl]
  | cons next fields ih =>
      intro name value limit each enough
      have first : ReadsBack value := each (name, value) (by simp)
      obtain ⟨limit, rfl⟩ := Nat.exists_eq_add_one_of_ne_zero (show limit ≠ 0 by omega)
      simp only [printFields, List.length_cons, List.length_append] at enough
      apply fields?_more (text?_skipBlanks_printText _ _) (first.value?_print (by omega) _)
      · simp only [printFields, List.cons_append, List.append_assoc]
        exact skipBlanks_cons rfl _
      · rw [fields?_newLine]
        exact ih (fun field among => each field (List.mem_cons_of_mem _ among)) (by omega)

theorem readsBack_array {items : List Json} (each : ∀ item ∈ items, ReadsBack item) :
    ReadsBack (.array items) := by
  intro depth limit rest enough
  cases items with
  | nil =>
      simp only [print, List.length_cons] at enough
      obtain ⟨limit, rfl⟩ := Nat.exists_eq_add_one_of_ne_zero (show limit ≠ 0 by omega)
      rfl
  | cons item items =>
      simp only [print, List.length_cons, List.length_append] at enough
      obtain ⟨limit, rfl⟩ := Nat.exists_eq_add_one_of_ne_zero (show limit ≠ 0 by omega)
      have first := each item (by simp)
      obtain ⟨c, tail, begins, -, opens⟩ := value?_begins (first (depth + 1) _ _ (Nat.le_refl _))
      simp only [print, List.cons_append, List.append_assoc, List.nil_append]
      rw [value?_array, skipBlanks_newLine, first.skipBlanks_print, items?_print each (by omega)]
      · rfl
      · rw [skipBlanks_newLine, first.skipBlanks_print, begins]
        simpa using opens

theorem readsBack_object {fields : List (String × Json)}
    (each : ∀ field ∈ fields, ReadsBack field.2) : ReadsBack (.object fields) := by
  intro depth limit rest enough
  cases fields with
  | nil =>
      simp only [print, List.length_cons] at enough
      obtain ⟨limit, rfl⟩ := Nat.exists_eq_add_one_of_ne_zero (show limit ≠ 0 by omega)
      rfl
  | cons field fields =>
      simp only [print, List.length_cons, List.length_append] at enough
      obtain ⟨limit, rfl⟩ := Nat.exists_eq_add_one_of_ne_zero (show limit ≠ 0 by omega)
      simp only [print, List.cons_append, List.append_assoc, List.nil_append]
      rw [value?_object, skipBlanks_newLine, skipBlanks_printText, fields?_print each (by omega)]
      · rfl
      · rw [skipBlanks_newLine, skipBlanks_printText]
        simp [printText]

/-- A value that is printed alike at every depth has only its form to be read from. -/
theorem readsBack_of_form {json : Json} {form : List Char}
    (printed : ∀ depth, json.print depth = form) (filled : form ≠ [])
    (reads : ∀ limit rest, value? (limit + 1) (form ++ rest) = some (json, rest)) :
    ReadsBack json := by
  intro depth limit rest enough
  rw [printed] at enough ⊢
  have positive := List.length_pos_iff.mpr filled
  obtain ⟨limit, rfl⟩ := Nat.exists_eq_add_one_of_ne_zero (show limit ≠ 0 by omega)
  exact reads limit rest

/-- Every value without numbers is read back. -/
theorem Numberless.readsBack {json : Json} (numberless : Numberless json) : ReadsBack json := by
  induction numberless with
  | null => exact readsBack_of_form (fun _ => rfl) (by decide) fun _ _ => rfl
  | bool value =>
      cases value
      · exact readsBack_of_form (fun _ => rfl) (by decide) fun _ _ => rfl
      · exact readsBack_of_form (fun _ => rfl) (by decide) fun _ _ => rfl
  | string text =>
      have printed (depth : Nat) : (Json.string text).print depth = printText text := by rw [print]
      refine readsBack_of_form printed (List.cons_ne_nil _ _) fun limit rest => ?_
      have reads := text?_printText text rest
      rw [printText, List.cons_append, List.cons_append] at reads ⊢
      rw [value?, reads]
      rfl
  | array each ih => exact readsBack_array ih
  | object each ih => exact readsBack_object ih

/-- A printed value is a document of its own, which is read as the value. -/
theorem parse?_render {json : Json} (numberless : Numberless json) :
    parse? json.render = some json := by
  have reads := numberless.readsBack.value?_print (Nat.le_succ (json.print 0).length) []
  rw [List.append_nil] at reads
  rw [parse?, render, String.toList_ofList]
  simp only [reads]
  rfl

end BenchSuite.Json
