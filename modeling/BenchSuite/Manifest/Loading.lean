import BenchSuite.Files.Tree
import BenchSuite.Manifest.Document

/-!
# Loading suites

A suite is loaded from the text of its manifest, or from the place where the manifest is kept: the
manifest file itself, or a directory that holds it under its usual name.
-/

namespace BenchSuite

inductive LoadError
  | unreadable (path : Path) (error : FileError)
  | unparsable
  | defect (error : ManifestError)
deriving DecidableEq, Repr

/-- The report of a failed loading; it does not say where a text fails to be a manifest. -/
def LoadError.message : LoadError → String
  | .unreadable path error => "Reading manifest file " ++ path.quoted ++ ": " ++ error.message
  | .unparsable => "Parsing manifest: "
  | .defect error => error.message

namespace Suite

def ofText (text : String) : Except LoadError Suite :=
  match Manifest.parse? text with
  | none => .error .unparsable
  | some manifest => manifest.suite.mapError .defect

def manifestName : Path := ⟨"manifest.yaml"⟩

/-- The manifest file that a path stands for. -/
def manifestFile (tree : FileTree) (path : Path) : Path :=
  if tree.isDirectory path then path.join manifestName else path

def load (tree : FileTree) (path : Path) : Except LoadError Suite :=
  let file := manifestFile tree path
  match tree.readText file with
  | .error error => .error (.unreadable file error)
  | .ok text => ofText text

end Suite

end BenchSuite
