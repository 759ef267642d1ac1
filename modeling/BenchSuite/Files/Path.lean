import BenchSuite.Text.Quoted
import BenchSuite.Text.Separated

/-!
# Paths

A path is a text whose components are separated by slashes.  Empty components and single dots mean
nothing; they are kept in the text and passed over when it is followed.
-/

namespace BenchSuite

structure Path where
  text : String
deriving DecidableEq, Repr

namespace Path

def quoted (path : Path) : String :=
  Text.quoted path.text

def isAbsolute (path : Path) : Bool :=
  path.text.toList.head? == some '/'

def pieces (text : List Char) : List (List Char) :=
  Text.cut '/' text

/-- The components to be followed one after the other, dots among them. -/
def components (path : Path) : List String :=
  ((pieces path.text.toList).filter (!·.isEmpty)).map String.ofList

/-- The path ends with a slash, so that it can only lead to a directory. -/
def hasTrailingSlash (path : Path) : Bool :=
  path.text.toList.getLast? == some '/'

/-- A path seen from a directory: an absolute path is left as it is, and another one is put behind
the directory with one slash between them. -/
def join (directory path : Path) : Path :=
  if path.isAbsolute then path
  else if directory.text.isEmpty || directory.hasTrailingSlash then
    ⟨directory.text ++ path.text⟩
  else ⟨directory.text ++ "/" ++ path.text⟩

/-- The beginning of a path that is no component to be dropped: a root, or a dot for the place where
the path begins. -/
def splitStart : List Char → List Char × List Char
  | '/' :: rest => (['/'], rest)
  | '.' :: rest =>
      if rest.isEmpty || rest.head? = some '/' then (['.'], rest) else ([], '.' :: rest)
  | text => ([], text)

def isIdle (piece : List Char) : Bool :=
  piece = [] || piece = ['.']

def dropIdle (pieces : List (List Char)) : List (List Char) :=
  (pieces.reverse.dropWhile isIdle).reverse

/-- The directory that holds what the path leads to: the path without its last component, and
without the slashes and dots around it. -/
def parent? (path : Path) : Option Path :=
  let (start, body) := splitStart path.text.toList
  match dropIdle (pieces body) with
  | [] => if start = ['.'] then some ⟨""⟩ else none
  | kept =>
      let body := ['/'].intercalate (dropIdle kept.dropLast)
      some ⟨String.ofList (start ++ body)⟩

end Path

end BenchSuite
