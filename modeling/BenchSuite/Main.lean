import BenchSuite.Program

/-!
# Running the program

The program sees those files that its command line and its configuration lead to.  They are read
before the run, and the file of the report is written after it.
-/

namespace BenchSuite

/-- Looks at what is found at a place. -/
def lookAt (tree : FileTree) (place : List String) (reads : Bool) : IO FileTree := do
  let here := (← IO.currentDir) / ("/" ++ "/".intercalate place)
  if ← here.isDir then
    pure (tree.put place .directory)
  else if ← here.pathExists then
    let content ← if reads then IO.FS.readBinFile here else pure ByteArray.empty
    pure (tree.put place (.file content))
  else
    pure tree

/-- Looks at every place that a path passes on its way. -/
def follow (tree : FileTree) (path : Path) (reads : Bool) : IO FileTree := do
  let start := if path.isAbsolute then [] else tree.workingDirectory
  let walk (state : FileTree × List String) (component : String) : IO (FileTree × List String) := do
    let (tree, place) := state
    if component = "." then pure state
    else if component = ".." then pure (tree, place.dropLast)
    else
      let place := place ++ [component]
      if (tree.node? place).isSome then pure (tree, place)
      else pure (← lookAt tree place reads, place)
  let (tree, _) ← path.components.foldlM walk (tree, start)
  pure tree

/-- The directory in which the program is started, and the directories above it. -/
def startingTree : IO FileTree := do
  let place := (Path.mk (← IO.currentDir).toString).components
  let above := (List.range place.length).map fun count => (place.take (count + 1), .directory)
  pure { nodes := above, workingDirectory := place }

def gatherFiles (arguments : Arguments) : IO FileTree := do
  let mut tree ← startingTree
  if let some path := arguments.config? then
    tree ← follow tree path true
  if let .ok config := arguments.loadConfig tree then
    let manifest := config.manifestPath arguments.command.manifest?
    tree ← follow tree manifest true
    tree ← follow tree (manifest.join Suite.manifestName) true
  if let some path := arguments.command.output? then
    tree ← follow tree path false
  pure tree

def saveReport (arguments : Arguments) (tree : FileTree) : IO Unit := do
  if let some path := arguments.command.output? then
    if let .ok text := tree.readText path then
      IO.FS.writeFile path.text text

def present (outcome : Outcome) : IO UInt32 := do
  IO.print outcome.output
  IO.eprint outcome.errors
  pure outcome.exitCode.toUInt32

def runProgram (words : List String) : IO UInt32 := do
  match CommandLine.parse words with
  | .error error => present (error.outcome { nodes := [] })
  | .ok arguments =>
      let outcome := arguments.outcome (← gatherFiles arguments)
      if outcome.exitCode = 0 then
        saveReport arguments outcome.tree
      present outcome

end BenchSuite

def main (words : List String) : IO UInt32 :=
  BenchSuite.runProgram words
