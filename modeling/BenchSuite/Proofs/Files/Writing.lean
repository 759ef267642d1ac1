import BenchSuite.Files.Tree
import BenchSuite.Proofs.FallibleComputation

/-!
# Writing files

Writing a file changes what is found at one place and nowhere else, and the path by which it was
written leads to what has been written, whatever was there before.  For this the path has to be
followed in the new tree: the directories on its way are still there, since no directory is ever
overwritten.
-/

namespace BenchSuite

namespace FileTree

variable {tree after : FileTree} {path : Path} {place : List String}

theorem lookup_put {nodes : List (List String × FileNode)} {node : FileNode} (other : List String) :
    ((place, node) :: nodes.filter (·.1 ≠ place)).lookup other =
      if other = place then some node else nodes.lookup other := by
  by_cases here : other = place
  · simp [here]
  · rw [List.lookup_cons, beq_false_of_ne here, if_neg here]
    induction nodes with
    | nil => rfl
    | cons entry nodes ih =>
        obtain ⟨place', node'⟩ := entry
        by_cases dropped : place' = place
        · rw [List.filter_cons_of_neg (by simpa using dropped), List.lookup_cons,
            beq_false_of_ne (by rwa [dropped])]
          exact ih
        · rw [List.filter_cons_of_pos (by simpa using dropped), List.lookup_cons, List.lookup_cons]
          cases other == place' with
          | true => rfl
          | false => exact ih

theorem node?_put {node : FileNode} (nonempty : place ≠ []) (other : List String) :
    (tree.put place node).node? other = if other = place then some node else tree.node? other := by
  cases other with
  | nil => simp [node?, nonempty.symm]
  | cons name names => exact lookup_put (name :: names)

theorem enter_eq_ok_iff : tree.enter place = .ok () ↔ tree.node? place = some .directory := by
  unfold enter
  cases tree.node? place with
  | none => simp
  | some node => cases node <;> simp

/-- What the first tree has is there in the second too, and its directories are directories. -/
structure Keeps (tree after : FileTree) : Prop where
  directories : ∀ place, tree.node? place = some .directory → after.node? place = some .directory
  nodes : ∀ place, (tree.node? place).isSome → (after.node? place).isSome

theorem keeps_put (content : ByteArray) (nonempty : place ≠ [])
    (free : tree.node? place ≠ some .directory) : tree.Keeps (tree.put place (.file content)) where
  directories other found := by
    rw [node?_put nonempty]
    split
    · rename_i same
      exact (free (same ▸ found)).elim
    · exact found
  nodes other found := by
    rw [node?_put nonempty]
    split
    · rfl
    · exact found

theorem Keeps.step {next : List String} {component : String} (keeps : tree.Keeps after)
    (steps : tree.step place component = .ok next) : after.step place component = .ok next := by
  obtain ⟨⟨⟩, entered, continues⟩ := bind_eq_ok_iff.mp steps
  have directory := keeps.directories place (enter_eq_ok_iff.mp entered)
  refine bind_eq_ok_iff.mpr ⟨(), enter_eq_ok_iff.mpr directory, ?_⟩
  revert continues
  split
  · exact id
  · split
    · exact id
    · split
      · exact id
      · split
        · rename_i found
          simp only [keeps.nodes _ found, if_true]
          exact id
        · intro fails
          cases fails

theorem Keeps.walk {components : List String} {start : List String} (keeps : tree.Keeps after)
    (leads : components.foldlM tree.step start = .ok place) :
    components.foldlM after.step start = .ok place := by
  induction components generalizing start with
  | nil => exact leads
  | cons component components ih =>
      rw [List.foldlM_cons] at leads ⊢
      obtain ⟨next, steps, continues⟩ := bind_eq_ok_iff.mp leads
      exact bind_eq_ok_iff.mpr ⟨next, keeps.step steps, ih continues⟩

/-- A file can stand under a name in a directory: the path leads to the directory with all of its
components but the last, which is the name, and no directory is in the place of the file. -/
structure HasRoom (tree : FileTree) (path : Path) (directory : List String) (name : String) :
    Prop where
  components : path.components = path.components.dropLast ++ [name]
  leads : ∃ start, tree.start path = .ok start ∧
    path.components.dropLast.foldlM tree.step start = .ok directory
  entered : tree.node? directory = some .directory
  proper : name ≠ "." ∧ name ≠ ".."
  short : ¬ name.utf8ByteSize > nameLimit
  unslashed : path.hasTrailingSlash = false
  free : tree.node? (directory ++ [name]) ≠ some .directory

theorem hasRoom_of_placeForFile (placed : tree.placeForFile path = .ok place) :
    ∃ directory name, tree.HasRoom path directory name ∧ place = directory ++ [name] := by
  obtain ⟨start, starts, continues⟩ := bind_eq_ok_iff.mp placed
  cases last : path.components.getLast? with
  | none =>
      simp only [last] at continues
      cases continues
  | some name =>
      simp only [last] at continues
      obtain ⟨directory, leads, continues⟩ := bind_eq_ok_iff.mp continues
      obtain ⟨⟨⟩, entered, continues⟩ := bind_eq_ok_iff.mp continues
      obtain ⟨front, components⟩ := List.getLast?_eq_some_iff.mp last
      split at continues
      · cases continues
      · rename_i proper
        split at continues
        · cases continues
        · rename_i short
          split at continues
          · cases continues
          · rename_i free
            simp only [Bool.or_eq_true, decide_eq_true_eq, not_or, Bool.not_eq_true] at proper
            cases continues
            refine ⟨directory, name, ?_, rfl⟩
            exact ⟨by simp [components], ⟨start, starts, leads⟩, enter_eq_ok_iff.mp entered,
              proper.1, short, proper.2, free⟩

/-- The path leads to a file that holds the bytes of the text. -/
def Holds (tree : FileTree) (path : Path) (text : String) : Prop :=
  ∃ place, tree.locate path = .ok place ∧ tree.node? place = some (.file text.toUTF8)

theorem Holds.readText {text : String} (holds : tree.Holds path text) :
    tree.readText path = .ok text := by
  obtain ⟨place, located, found⟩ := holds
  have decoded : String.fromUTF8? text.toUTF8 = some text := dif_pos text.isValidUTF8
  refine bind_eq_ok_iff.mpr ⟨place, located, ?_⟩
  simp only [found, decoded]
  rfl

theorem HasRoom.step_put {directory : List String} {name : String} {content : ByteArray}
    (room : tree.HasRoom path directory name) :
    (tree.put (directory ++ [name]) (.file content)).step directory name =
      .ok (directory ++ [name]) := by
  have keeps := keeps_put content (by simp) room.free
  have entered := enter_eq_ok_iff.mpr (keeps.directories directory room.entered)
  refine bind_eq_ok_iff.mpr ⟨(), entered, ?_⟩
  simp [room.proper, room.short, node?_put]
  rfl

theorem HasRoom.locate_put {directory : List String} {name : String} {content : ByteArray}
    (room : tree.HasRoom path directory name) :
    (tree.put (directory ++ [name]) (.file content)).locate path = .ok (directory ++ [name]) := by
  have keeps := keeps_put content (by simp) room.free
  obtain ⟨start, starts, leads⟩ := room.leads
  refine bind_eq_ok_iff.mpr ⟨start, starts, ?_⟩
  refine bind_eq_ok_iff.mpr ⟨directory ++ [name], ?_, ?_⟩
  · rw [room.components, List.foldlM_append]
    refine bind_eq_ok_iff.mpr ⟨directory, keeps.walk leads, ?_⟩
    rw [List.foldlM_cons, room.step_put]
    rfl
  · rw [room.unslashed]
    rfl

/-- Writing fails only if there is no place for the file. -/
theorem write_eq_error_iff {text : String} {error : FileError} :
    tree.write path text = .error error ↔ tree.placeForFile path = .error error := by
  unfold write
  cases tree.placeForFile path with
  | ok place => exact iff_of_false nofun nofun
  | error error' =>
      change (Except.error error' : Except FileError FileTree) = .error error ↔ _
      simp

/-- What has been written is found by its path. -/
theorem holds_of_write {text : String} (written : tree.write path text = .ok after) :
    after.Holds path text := by
  obtain ⟨place, placed, wrote⟩ := bind_eq_ok_iff.mp written
  obtain ⟨directory, name, room, rfl⟩ := hasRoom_of_placeForFile placed
  cases wrote
  exact ⟨directory ++ [name], room.locate_put, by rw [node?_put (by simp), if_pos rfl]⟩

/-- Writing changes nothing but the place of the file. -/
theorem node?_of_write {text : String} (written : tree.write path text = .ok after)
    {other : List String} (elsewhere : tree.placeForFile path ≠ .ok other) :
    after.node? other = tree.node? other := by
  obtain ⟨place, placed, wrote⟩ := bind_eq_ok_iff.mp written
  obtain ⟨directory, name, -, rfl⟩ := hasRoom_of_placeForFile placed
  cases wrote
  have away : other ≠ directory ++ [name] := by
    rintro rfl
    exact elsewhere placed
  rw [node?_put (by simp), if_neg away]

end FileTree

end BenchSuite
