import BenchSuite.Listing
import BenchSuite.Run.Failure
import BenchSuite.Run.Notice

/-!
# Runs

A run reads the configuration, checks the arguments against it, loads the suite, and carries the
command out.  On its way it changes its world: it gives notices, prints, and writes a file.  What a
run has changed stays changed if it fails later on.  A run does not look at whether its notices are
shown, apart from refusing that they be shown in detail and not at all.
-/

namespace BenchSuite

/-- What a run can change: the files, the text on the standard output, and the notices given. -/
structure World where
  tree : FileTree := { nodes := [] }
  printed : String := ""
  notices : List Notice := []
deriving DecidableEq

/-- A computation that changes its world and may fail. -/
abbrev Run := ExceptT Failure (StateM World)

namespace Run

def notify (notice : Notice) : Run Unit :=
  modify fun world => { world with notices := world.notices ++ [notice] }

def print (text : String) : Run Unit :=
  modify fun world => { world with printed := world.printed ++ text }

/-- Goes on with a result, or fails for a cause. -/
def attempt {ε α : Type} (cause : ε → Failure) : Except ε α → Run α
  | .ok value => pure value
  | .error error => throw (cause error)

/-- The files as they are at this point. -/
def files : Run FileTree :=
  World.tree <$> get

/-- Makes a file with a text, in place of the one that the path leads to if there is one.  Once the
file has been made, writing it does not fail. -/
def save (path : Path) (text : String) : Run Unit := do
  let tree ← attempt (.output path) ((← files).write path text)
  modify fun world => { world with tree }

/-- The result of a run that begins in a world, and the world after it. -/
def outcome {α : Type} (computation : Run α) (world : World := {}) : Except Failure α × World :=
  (ExceptT.run computation).run world

end Run

open Run

def Arguments.loadConfig (arguments : Arguments) (tree : FileTree) : Except ConfigError Config :=
  match arguments.config? with
  | some path => Config.load tree path
  | none => .ok {}

def Run.loadSuite (tree : FileTree) (path : Path) : Run Suite := do
  notify (.loading path)
  attempt (.manifest path) (Suite.load tree path)

/-- Resolves what the user chooses.  Choosing nothing at all selects nothing and is not looked at by
the guard. -/
def Suite.choose (suite : Suite) (guard : NegationGuard) : Choice → Run Resolution
  | .nothing => pure {}
  | .selections selections => do
      notify (.selecting selections)
      let resolution ← attempt .selection (suite.catalog.resolveGuarded (some guard) selections)
      resolution.unmatched.forM fun selection => notify (.unmatched selection)
      pure resolution

namespace SelectRequest

/-- An empty selection is accepted, by the request or by the configuration. -/
def acceptsNothing (request : SelectRequest) (config : Config) : Bool :=
  request.allowsNothing || config.allowsNothing

/-- What is handed over for a resolution. -/
def report (request : SelectRequest) (resolution : Resolution) : String :=
  (Report.ofResolution resolution (request.environment?.getD [])).render request.format

/-- Hands a text over: on the standard output, or in the file that is to take it. -/
def deliver (request : SelectRequest) (text : String) : Run Unit :=
  match request.output? with
  | none => print text
  | some path => save path text

def run (request : SelectRequest) (config : Config) (suite : Suite) : Run Unit := do
  let resolution ← suite.choose config.guard request.choice
  if resolution.benchmarks.isEmpty && !request.acceptsNothing config then
    throw .nothingSelected
  request.deliver (request.report resolution)
  notify (.finished resolution.benchmarks.length)

end SelectRequest

def Command.run (command : Command) (config : Config) (suite : Suite) : Run Unit :=
  match command with
  | .list _ choice => do
      let resolution ← suite.choose config.guard choice
      print (Listing.benchmarks resolution.benchmarks)
  | .listGroups _ => print (Listing.groups suite.groups)
  | .select request => request.run config suite

/-- What comes before every command: the configuration is read, the arguments are checked against
it, and the suite is loaded. -/
def Arguments.prepare (arguments : Arguments) : Run (Config × Suite) := do
  let config ← attempt .config (arguments.loadConfig (← files))
  if let some conflict := arguments.conflict? config then
    throw (.conflict conflict)
  notify .starting
  let suite ← loadSuite (← files) (config.manifestPath arguments.command.manifest?)
  pure (config, suite)

def Arguments.run (arguments : Arguments) : Run Unit := do
  let (config, suite) ← arguments.prepare
  arguments.command.run config suite

end BenchSuite
