import BenchSuite.CommandLine.Choice
import BenchSuite.Proofs.Selection.Entries

/-!
# Expressions joined by a comma

The tokens of two expressions joined by a comma are those of the one and then those of the other,
whatever stands at the ends of the two.  So reading the joined expression is reading the first and
then, unless this has failed, reading the second.  This holds for every builder of entries: also for
one that keeps a state of its own, from which what it makes of an entry may depend on all entries
before, and which shows how often it has been called.
-/

namespace BenchSuite

theorem tokens_joined (first second : String) :
    tokens (first ++ "," ++ second) = tokens first ++ tokens second := by
  have joined : (first ++ "," ++ second).toList = first.toList ++ ',' :: second.toList := by simp
  simp only [tokens, Text.cut_eq_splitOn, joined, List.splitOn_append_cons_self, List.map_append]

namespace Entry

theorem ofTokens_joined (first second : String) :
    ofTokens (tokens (first ++ "," ++ second)) =
      ofTokens (tokens first) ++ ofTokens (tokens second) := by
  rw [tokens_joined]
  exact List.filterMap_append

theorem buildAll_tokens_joined {m : Type → Type} [Monad m] [LawfulMonad m] {α : Type}
    (build : Entry → m α) (first second : String) :
    buildAll build (tokens (first ++ "," ++ second)) = (do
      let entries ← buildAll build (tokens first)
      let more ← buildAll build (tokens second)
      pure (entries ++ more)) := by
  rw [buildAll, ofTokens_joined, List.mapM_append]
  rfl

variable {σ ε α β : Type}

/-- A builder that may refuse an entry, and that keeps a state whether it does or not. -/
abbrev Builder (σ ε α : Type) := Entry → ExceptT ε (StateM σ) α

/-- What a computation ends with, and the state in which it leaves the builder. -/
def outcome (computation : ExceptT ε (StateM σ) α) (state : σ) : Except ε α × σ :=
  computation.run.run state

theorem outcome_bind (computation : ExceptT ε (StateM σ) β) (next : β → ExceptT ε (StateM σ) α)
    (state : σ) :
    outcome (computation >>= next) state =
      match outcome computation state with
      | (.ok value, left) => outcome (next value) left
      | (.error error, left) => (.error error, left) := by
  change (match computation.run.run state with
    | (ended, left) => (ExceptT.bindCont next ended).run left) = _
  unfold outcome
  split
  rename_i ended left same
  rw [same]
  cases ended <;> rfl

namespace Builder

/-- The builder that also writes down with which entries it is called. -/
def recording (build : Builder σ ε α) : Builder (List Entry × σ) ε α :=
  fun entry => ExceptT.mk fun (calls, state) =>
    let (result, left) := outcome (build entry) state
    (result, calls ++ [entry], left)

/-- How a builder handles the entries of a list: it is called with one after the other, each time in
the state in which the call before has left it, up to the first entry that it refuses.  The calls
are listed, with what comes of them all and the state in the end. -/
inductive Handles (build : Builder σ ε α) :
    List Entry → σ → List Entry → Except ε (List α) → σ → Prop
  | done (state : σ) : Handles build [] state [] (.ok []) state
  | refused {entry : Entry} {rest : List Entry} {state left : σ} {error : ε}
      (refuses : outcome (build entry) state = (.error error, left)) :
      Handles build (entry :: rest) state [entry] (.error error) left
  | built {entry : Entry} {rest calls : List Entry} {state middle left : σ} {value : α}
      {result : Except ε (List α)}
      (builds : outcome (build entry) state = (.ok value, middle))
      (continues : Handles build rest middle calls result left) :
      Handles build (entry :: rest) state (entry :: calls) ((value :: ·) <$> result) left

theorem outcome_recording (build : Builder σ ε α) (entry : Entry) (calls : List Entry) (state : σ) :
    outcome (build.recording entry) (calls, state) =
      ((outcome (build entry) state).1, calls ++ [entry], (outcome (build entry) state).2) :=
  rfl

/-- The calls that a builder gets for a list of tokens, what comes of them all, and the state in
which they leave it. -/
def trace (build : Builder σ ε α) (tokens : List String) (state : σ) :
    List Entry × Except ε (List α) × σ :=
  let (result, calls, left) := outcome (buildAll build.recording tokens) ([], state)
  (calls, result, left)

/-- Recording changes nothing but the record, to which the calls are added. -/
theorem exists_handles (build : Builder σ ε α) (entries : List Entry) (state : σ) :
    ∃ calls result left, build.Handles entries state calls result left ∧
      outcome (entries.mapM build) state = (result, left) ∧
      ∀ earlier, outcome (entries.mapM build.recording) (earlier, state) =
        (result, earlier ++ calls, left) := by
  induction entries generalizing state with
  | nil =>
      refine ⟨[], .ok [], state, .done state, rfl, fun earlier => ?_⟩
      rw [List.append_nil]
      rfl
  | cons entry rest ih =>
      simp only [List.mapM_cons, outcome_bind, outcome_recording]
      rcases called : outcome (build entry) state with ⟨error | value, middle⟩
      · exact ⟨[entry], .error error, middle, .refused called, rfl, fun _ => rfl⟩
      · obtain ⟨calls, result, left, handles, plain, recorded⟩ := ih middle
        refine ⟨entry :: calls, (value :: ·) <$> result, left, .built called handles, ?_,
          fun earlier => ?_⟩
        · simp only [plain]
          cases result <;> rfl
        · simp only [recorded, List.append_assoc]
          cases result <;> rfl

theorem exists_trace (build : Builder σ ε α) (tokens : List String) (state : σ) :
    ∃ calls result left, build.trace tokens state = (calls, result, left) ∧
      build.Handles ((written tokens).map ofTrimmed) state calls result left ∧
      outcome (buildAll build tokens) state = (result, left) ∧
      ∀ earlier, outcome (buildAll build.recording tokens) (earlier, state) =
        (result, earlier ++ calls, left) := by
  obtain ⟨calls, result, left, handles, plain, recorded⟩ :=
    build.exists_handles (ofTokens tokens) state
  refine ⟨calls, result, left, ?_, ofTokens_eq_map tokens ▸ handles, plain, recorded⟩
  simp only [trace, buildAll, recorded, List.nil_append]

theorem trace_joined (build : Builder σ ε α) (first second : String) (state : σ) :
    build.trace (tokens (first ++ "," ++ second)) state =
      match build.trace (tokens first) state with
      | (calls, .error error, left) => (calls, .error error, left)
      | (calls, .ok entries, middle) =>
          match build.trace (tokens second) middle with
          | (more, result, left) => (calls ++ more, (entries ++ ·) <$> result, left) := by
  obtain ⟨calls, result, middle, traced, -, -, recorded⟩ := build.exists_trace (tokens first) state
  have joined := buildAll_tokens_joined build.recording first second
  cases result with
  | error error => simp only [trace, joined, outcome_bind, recorded, List.nil_append]
  | ok entries =>
      obtain ⟨more, result, left, traced', -, -, recorded'⟩ :=
        build.exists_trace (tokens second) middle
      simp only [traced, traced']
      simp only [trace, joined, outcome_bind, recorded, recorded', List.nil_append]
      cases result <;> rfl

end Builder

end Entry

theorem Selection.parse_joined (first second : String) :
    parse (first ++ "," ++ second) = (do
      let selections ← parse first
      let more ← parse second
      pure (selections ++ more)) :=
  Entry.buildAll_tokens_joined ofEntry first second

theorem parseVariables_joined (first second : String) :
    parseVariables (first ++ "," ++ second) = (do
      let names ← parseVariables first
      let more ← parseVariables second
      pure (names ++ more)) :=
  Entry.buildAll_tokens_joined variableOfEntry first second

/-- A builder is called once for every token that is not blank, in order, up to and including the
first that it refuses, and each time in the state in which the call before has left it.  So the
calls for two joined expressions are those for the first and, only if none of them has failed, those
for the second, from the state in between; the entries are appended, and the error of the first is
returned as it is.  In particular reading selections, entries and environment variables turns the
comma into the appending of lists, and reports the first error from the left. -/
theorem Entry.Builder.buildAll_joined {σ ε α : Type} (build : Builder σ ε α)
    (first second : String) (state : σ) :
    (∀ (tokens : List String) (state : σ), ∃ calls result left,
      build.trace tokens state = (calls, result, left) ∧
      outcome (buildAll build tokens) state = (result, left) ∧
      build.Handles ((written tokens).map ofTrimmed) state calls result left) ∧
    (build.trace (tokens (first ++ "," ++ second)) state =
      match build.trace (tokens first) state with
      | (calls, .error error, left) => (calls, .error error, left)
      | (calls, .ok entries, middle) =>
          match build.trace (tokens second) middle with
          | (more, result, left) => (calls ++ more, (entries ++ ·) <$> result, left)) ∧
    ofTokens (tokens (first ++ "," ++ second)) =
      ofTokens (tokens first) ++ ofTokens (tokens second) ∧
    (Selection.parse (first ++ "," ++ second) = do
      let selections ← Selection.parse first
      let more ← Selection.parse second
      pure (selections ++ more)) ∧
    (parseVariables (first ++ "," ++ second) = do
      let names ← parseVariables first
      let more ← parseVariables second
      pure (names ++ more)) := by
  refine ⟨fun tokens state => ?_, build.trace_joined first second state,
    ofTokens_joined first second, Selection.parse_joined first second,
    parseVariables_joined first second⟩
  obtain ⟨calls, result, left, traced, handles, plain, -⟩ := build.exists_trace tokens state
  exact ⟨calls, result, left, traced, plain, handles⟩

end BenchSuite
