import BenchSuite.Manifest.Loading
import BenchSuite.Proofs.FallibleComputation
import BenchSuite.Proofs.Text.Pieces

/-!
# Following paths

A path that stands behind a directory leads to the directory first, and from there on it leads where
the path alone leads from the directory.  So the same is found there, and the same suite is loaded,
whether the path is seen from the directory or from where the path to the directory begins.  Only
the length of the longer path can make a difference.
-/

namespace BenchSuite

namespace Path

variable {directory path : Path}

/-- The path leads somewhere from a directory, and not from the root. -/
structure IsRelative (path : Path) : Prop where
  nonempty : path.text ≠ ""
  unrooted : path.isAbsolute = false

/-- What is put between a directory and a path that is seen from it. -/
def gap (directory : Path) : String :=
  if directory.text.isEmpty || directory.hasTrailingSlash then "" else "/"

theorem text_join (unrooted : path.isAbsolute = false) :
    (directory.join path).text = directory.text ++ directory.gap ++ path.text := by
  simp only [join, gap, unrooted, Bool.false_eq_true, if_false]
  split
  · rw [String.append_empty]
  · rfl

theorem join_of_nameless (path : Path) : join ⟨""⟩ path = path := by
  cases rooted : path.isAbsolute <;> simp [join, rooted]

/-- There is one slash between the two parts. -/
theorem toList_join (given : directory.text ≠ "") (unrooted : path.isAbsolute = false) :
    ∃ front, (directory.join path).text.toList = front ++ '/' :: path.text.toList ∧
      (directory.text.toList = front ∨ directory.text.toList = front ++ ['/']) := by
  rw [text_join unrooted]
  cases slashed : directory.hasTrailingSlash with
  | false =>
      refine ⟨directory.text.toList, ?_, .inl rfl⟩
      simp [gap, given, slashed]
  | true =>
      obtain ⟨front, ends⟩ := List.getLast?_eq_some_iff.mp (beq_iff_eq.mp slashed)
      refine ⟨front, ?_, .inr ends⟩
      simp [gap, slashed, ends]

theorem components_join (given : directory.text ≠ "") (unrooted : path.isAbsolute = false) :
    (directory.join path).components = directory.components ++ path.components := by
  obtain ⟨front, joined, begins | begins⟩ := toList_join given unrooted
  · simp only [components, pieces, joined, begins, Text.cut_append_cons, List.filter_append,
      List.map_append]
  · have closed : Text.cut '/' (front ++ ['/']) = Text.cut '/' front ++ [[]] :=
      Text.cut_append_cons '/' front []
    simp [components, pieces, joined, begins, closed, Text.cut_append_cons]

theorem isAbsolute_join (given : directory.text ≠ "") (unrooted : path.isAbsolute = false) :
    (directory.join path).isAbsolute = directory.isAbsolute := by
  obtain ⟨front, joined, begins | begins⟩ := toList_join given unrooted
  · have nonempty : front ≠ [] := by
      rintro rfl
      exact given (String.toList_eq_nil_iff.mp begins)
    obtain ⟨c, rest, rfl⟩ := List.exists_cons_of_ne_nil nonempty
    simp [isAbsolute, joined, begins]
  · cases front <;> simp [isAbsolute, joined, begins]

theorem hasTrailingSlash_join (given : directory.text ≠ "") (relative : path.IsRelative) :
    (directory.join path).hasTrailingSlash = path.hasTrailingSlash := by
  obtain ⟨front, joined, -⟩ := toList_join given relative.unrooted
  have nonempty : path.text.toList ≠ [] := by simpa using relative.nonempty
  obtain ⟨before, last, ends⟩ := List.eq_nil_or_concat' _ |>.resolve_left nonempty
  have ends' : (directory.join path).text.toList = (front ++ '/' :: before) ++ [last] := by
    rw [joined, ends, List.append_assoc, List.cons_append]
  rw [hasTrailingSlash, hasTrailingSlash, ends, ends', List.getLast?_concat, List.getLast?_concat]

theorem join_ne_empty (relative : path.IsRelative) : (directory.join path).text ≠ "" := by
  rw [text_join relative.unrooted]
  simp [relative.nonempty]

theorem gap_join (given : directory.text ≠ "") (relative : path.IsRelative) :
    (directory.join path).gap = path.gap := by
  simp [gap, join_ne_empty relative, relative.nonempty, hasTrailingSlash_join given relative]

theorem IsRelative.join {other : Path} (relative : path.IsRelative) (behind : other.IsRelative) :
    (path.join other).IsRelative where
  nonempty := join_ne_empty behind
  unrooted := (isAbsolute_join relative.nonempty behind.unrooted).trans relative.unrooted

/-- Of three parts, any two that stand together can be joined first. -/
theorem join_join {other : Path} (relative : path.IsRelative) (behind : other.IsRelative) :
    (directory.join path).join other = directory.join (path.join other) := by
  by_cases given : directory.text = ""
  · obtain rfl : directory = ⟨""⟩ := congrArg mk given
    rw [join_of_nameless, join_of_nameless]
  · have same : ((directory.join path).join other).text =
        (directory.join (path.join other)).text := by
      simp only [text_join, behind.unrooted, relative.unrooted, (relative.join behind).unrooted,
        gap_join given relative, String.append_assoc]
    exact congrArg mk same

theorem mem_join_iff (unrooted : path.isAbsolute = false) {c : Char} (other : c ≠ '/') :
    c ∈ (directory.join path).text.toList ↔
      c ∈ directory.text.toList ∨ c ∈ path.text.toList := by
  have between : c ∉ directory.gap.toList := by
    unfold gap
    split <;> simp [other]
  simp [text_join unrooted, between]

end Path

namespace FileTree

variable {tree : FileTree} {directory path : Path} {place : List String}

/-- The same files, with relative paths beginning at another place. -/
def startedIn (tree : FileTree) (place : List String) : FileTree :=
  { tree with workingDirectory := place }

theorem step_startedIn (tree : FileTree) (place : List String) :
    (tree.startedIn place).step = tree.step :=
  rfl

theorem enter_startedIn (tree : FileTree) (place : List String) :
    (tree.startedIn place).enter = tree.enter :=
  rfl

theorem node?_startedIn (tree : FileTree) (place : List String) :
    (tree.startedIn place).node? = tree.node? :=
  rfl

/-- The path is short enough to be followed. -/
def Fits (path : Path) : Prop :=
  path.text.utf8ByteSize ≤ pathLimit

instance (path : Path) : Decidable (Fits path) :=
  inferInstanceAs (Decidable (_ ≤ _))

theorem Fits.parts (fits : Fits (directory.join path)) (unrooted : path.isAbsolute = false) :
    Fits directory ∧ Fits path := by
  unfold Fits at fits ⊢
  simp only [Path.text_join unrooted, String.utf8ByteSize_append] at fits
  omega

/-- Where a path begins. -/
def origin (tree : FileTree) (path : Path) : List String :=
  if path.isAbsolute then [] else tree.workingDirectory

theorem start_of_clean (tree : FileTree) (clean : '\x00' ∉ path.text.toList)
    (given : path.text ≠ "") (fits : Fits path) : tree.start path = .ok (tree.origin path) := by
  have clean' : ¬ path.text.toList.contains '\x00' = true := by simpa using clean
  have given' : ¬ path.text.isEmpty = true := by simpa using given
  rw [start, if_neg clean', if_neg given', if_neg (Nat.not_lt.mpr fits), origin]

theorem start_of_nul (inside : '\x00' ∈ path.text.toList) :
    tree.start path = .error .nulInPath :=
  if_pos (by simpa using inside)

theorem start_eq_ok {begins : List String} (starts : tree.start path = .ok begins) :
    '\x00' ∉ path.text.toList ∧ path.text ≠ "" ∧ Fits path ∧ begins = tree.origin path := by
  unfold start at starts
  split at starts
  · cases starts
  · rename_i clean
    split at starts
    · cases starts
    · rename_i given
      split at starts
      · cases starts
      · rename_i fits
        cases starts
        exact ⟨by simpa using clean, by simpa using given, Nat.le_of_not_lt fits, rfl⟩

theorem locate_of_start {begins : List String} (starts : tree.start path = .ok begins) :
    tree.locate path = (do
      let place ← path.components.foldlM tree.step begins
      if path.hasTrailingSlash then
        tree.enter place
      pure place) := by
  rw [locate, starts]
  rfl

theorem exists_start_of_locate (leads : tree.locate path = .ok place) :
    ∃ begins, tree.start path = .ok begins ∧
      path.components.foldlM tree.step begins = .ok place := by
  obtain ⟨begins, starts, continues⟩ := bind_eq_ok_iff.mp leads
  obtain ⟨reached, follows, ends⟩ := bind_eq_ok_iff.mp continues
  refine ⟨begins, starts, ?_⟩
  split at ends
  · obtain ⟨⟨⟩, -, same⟩ := bind_eq_ok_iff.mp ends
    cases same
    exact follows
  · cases ends
    exact follows

theorem fits_of_readText {text : String} (reads : tree.readText path = .ok text) : Fits path := by
  obtain ⟨place, leads, -⟩ := bind_eq_ok_iff.mp reads
  obtain ⟨begins, starts, -⟩ := exists_start_of_locate leads
  exact (start_eq_ok starts).2.2.1

/-- Following a path behind a directory is following it in the directory. -/
theorem locate_join (leads : tree.locate directory = .ok place) (relative : path.IsRelative)
    (fits : Fits (directory.join path)) :
    tree.locate (directory.join path) = (tree.startedIn place).locate path := by
  obtain ⟨begins, starts, follows⟩ := exists_start_of_locate leads
  obtain ⟨clean, given, -, rfl⟩ := start_eq_ok starts
  have nul : '\x00' ∈ (directory.join path).text.toList ↔ _ :=
    Path.mem_join_iff relative.unrooted (by decide)
  by_cases inside : '\x00' ∈ path.text.toList
  · rw [locate, locate, start_of_nul inside, start_of_nul (nul.mpr (.inr inside))]
    rfl
  · have clean' : '\x00' ∉ (directory.join path).text.toList :=
      nul.not.mpr (not_or.mpr ⟨clean, inside⟩)
    have fits' := (fits.parts relative.unrooted).2
    have starts := tree.start_of_clean clean' (Path.join_ne_empty relative) fits
    have starts' := (tree.startedIn place).start_of_clean inside relative.nonempty fits'
    rw [origin, Path.isAbsolute_join given relative.unrooted, ← origin] at starts
    have begins : (tree.startedIn place).origin path = place := by
      rw [origin, relative.unrooted]
      rfl
    rw [begins] at starts'
    rw [locate_of_start starts, locate_of_start starts', step_startedIn, enter_startedIn,
      Path.components_join given relative.unrooted, List.foldlM_append, follows, ok_bind,
      Path.hasTrailingSlash_join given relative]

theorem readText_join (leads : tree.locate directory = .ok place) (relative : path.IsRelative)
    (fits : Fits (directory.join path)) :
    tree.readText (directory.join path) = (tree.startedIn place).readText path := by
  rw [readText, locate_join leads relative fits, readText, node?_startedIn]

theorem isDirectory_join (leads : tree.locate directory = .ok place) (relative : path.IsRelative)
    (fits : Fits (directory.join path)) :
    tree.isDirectory (directory.join path) = (tree.startedIn place).isDirectory path := by
  rw [isDirectory, locate_join leads relative fits, isDirectory, node?_startedIn]

end FileTree

namespace Suite

open FileTree

variable {tree : FileTree} {directory path : Path} {place : List String}

theorem isRelative_manifestName : manifestName.IsRelative :=
  ⟨by decide, by decide⟩

theorem isRelative_manifestFile (tree : FileTree) (relative : path.IsRelative) :
    (manifestFile tree path).IsRelative := by
  unfold manifestFile
  split
  · exact relative.join isRelative_manifestName
  · exact relative

theorem fits_of_manifestFile (fits : Fits (manifestFile tree path)) : Fits path := by
  unfold manifestFile at fits
  split at fits
  · exact (fits.parts isRelative_manifestName.unrooted).1
  · exact fits

theorem manifestFile_join (leads : tree.locate directory = .ok place) (relative : path.IsRelative)
    (fits : Fits (manifestFile tree (directory.join path))) :
    manifestFile tree (directory.join path) =
      directory.join (manifestFile (tree.startedIn place) path) := by
  simp only [manifestFile, isDirectory_join leads relative (fits_of_manifestFile fits)]
  split
  · exact Path.join_join relative isRelative_manifestName
  · rfl

theorem load_eq (tree : FileTree) (path : Path) : load tree path = (do
    let text ← (tree.readText (manifestFile tree path)).mapError
      (.unreadable (manifestFile tree path))
    ofText text) := by
  unfold load
  dsimp only
  cases tree.readText (manifestFile tree path) <;> rfl

theorem load_of_readText {text : String} (single : tree.isDirectory path = false)
    (reads : tree.readText path = .ok text) : load tree path = ofText text := by
  have file : manifestFile tree path = path := by simp [manifestFile, single]
  rw [load_eq, file, reads]
  rfl

/-- A path that is too long to be followed leads to no suite. -/
theorem exists_load_eq_error (long : ¬ Fits path) : ∃ error, load tree path = .error error := by
  cases reads : tree.readText (manifestFile tree path) with
  | error error => exact ⟨.unreadable (manifestFile tree path) error, by rw [load_eq, reads]; rfl⟩
  | ok text => exact (long (fits_of_manifestFile (fits_of_readText reads))).elim

/-- A suite is the same whether its path is seen from a directory or put behind it. -/
theorem load_join (leads : tree.locate directory = .ok place) (relative : path.IsRelative)
    (fits : Fits (manifestFile tree (directory.join path))) :
    (load tree (directory.join path)).toOption = (load (tree.startedIn place) path).toOption := by
  have relative' := isRelative_manifestFile (tree.startedIn place) relative
  have seen := manifestFile_join leads relative fits
  rw [seen] at fits
  rw [load_eq, load_eq, seen, readText_join leads relative' fits]
  cases (tree.startedIn place).readText (manifestFile (tree.startedIn place) path) <;> rfl

end Suite

end BenchSuite
