import BenchSuite.Files.Path

/-!
# File trees

A file tree holds files and directories by their places, which are the lists of names that lead to
them from the root, and it knows the place at which relative paths begin.  A path is followed name
by name: what it passes through must be a directory, two dots lead back, and a slash at its end asks
for a directory.
-/

namespace BenchSuite

inductive FileNode
  | file (content : ByteArray)
  | directory

instance : DecidableEq FileNode
  | .file content, .file other =>
      match ByteArray.instDecidableEq content other with
      | .isTrue same => .isTrue (congrArg FileNode.file same)
      | .isFalse differ => .isFalse fun same => differ (FileNode.file.inj same)
  | .file _, .directory => .isFalse nofun
  | .directory, .file _ => .isFalse nofun
  | .directory, .directory => .isTrue rfl

/-- Files and directories by their places, with the place at which relative paths begin. -/
structure FileTree where
  nodes : List (List String × FileNode)
  workingDirectory : List String := []
deriving DecidableEq

inductive FileError
  | notFound
  | notADirectory
  | isADirectory
  | nameTooLong
  | nulInPath
  | notUnicode
deriving DecidableEq, Repr

def FileError.message : FileError → String
  | .notFound => "No such file or directory (os error 2)"
  | .notADirectory => "Not a directory (os error 20)"
  | .isADirectory => "Is a directory (os error 21)"
  | .nameTooLong => "File name too long (os error 36)"
  | .nulInPath => "file name contained an unexpected NUL byte"
  | .notUnicode => "stream did not contain valid UTF-8"

namespace FileTree

/-- The longest name, in bytes. -/
def nameLimit : Nat := 255

/-- The longest path, in bytes. -/
def pathLimit : Nat := 4095

def node? (tree : FileTree) : List String → Option FileNode
  | [] => some .directory
  | place => tree.nodes.lookup place

def put (tree : FileTree) (place : List String) (node : FileNode) : FileTree :=
  { tree with nodes := (place, node) :: tree.nodes.filter (·.1 ≠ place) }

def enter (tree : FileTree) (place : List String) : Except FileError Unit :=
  match tree.node? place with
  | some .directory => .ok ()
  | some (.file _) => .error .notADirectory
  | none => .error .notFound

def step (tree : FileTree) (place : List String) (component : String) :
    Except FileError (List String) := do
  tree.enter place
  if component = "." then pure place
  else if component = ".." then pure place.dropLast
  else if component.utf8ByteSize > nameLimit then throw .nameTooLong
  else if (tree.node? (place ++ [component])).isSome then pure (place ++ [component])
  else throw .notFound

/-- The place at which a path begins.  No path is empty, holds a NUL or is too long. -/
def start (tree : FileTree) (path : Path) : Except FileError (List String) :=
  if path.text.toList.contains '\x00' then .error .nulInPath
  else if path.text.isEmpty then .error .notFound
  else if path.text.utf8ByteSize > pathLimit then .error .nameTooLong
  else .ok (if path.isAbsolute then [] else tree.workingDirectory)

def locate (tree : FileTree) (path : Path) : Except FileError (List String) := do
  let place ← path.components.foldlM tree.step (← tree.start path)
  if path.hasTrailingSlash then
    tree.enter place
  pure place

def isDirectory (tree : FileTree) (path : Path) : Bool :=
  match tree.locate path with
  | .ok place => tree.node? place = some .directory
  | .error _ => false

def readText (tree : FileTree) (path : Path) : Except FileError String := do
  match tree.node? (← tree.locate path) with
  | none => throw .notFound
  | some .directory => throw .isADirectory
  | some (.file content) =>
      match String.fromUTF8? content with
      | some text => pure text
      | none => throw .notUnicode

/-- The place at which a file can be made or overwritten.  The directory that is to hold it must be
there, and the path must not name a directory. -/
def placeForFile (tree : FileTree) (path : Path) : Except FileError (List String) := do
  let start ← tree.start path
  match path.components.getLast? with
  | none => throw .isADirectory
  | some name =>
      let directory ← path.components.dropLast.foldlM tree.step start
      tree.enter directory
      if name = "." || name = ".." || path.hasTrailingSlash then throw .isADirectory
      else if name.utf8ByteSize > nameLimit then throw .nameTooLong
      else if tree.node? (directory ++ [name]) = some .directory then throw .isADirectory
      else pure (directory ++ [name])

def write (tree : FileTree) (path : Path) (text : String) : Except FileError FileTree := do
  let place ← tree.placeForFile path
  pure (tree.put place (.file text.toUTF8))

end FileTree

end BenchSuite
