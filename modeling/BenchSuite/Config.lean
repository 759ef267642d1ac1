import BenchSuite.Files.Tree
import BenchSuite.Json.Parser
import BenchSuite.Selection.NegationGuard

/-!
# Configuration

A configuration file sets the manifest to be used, whether empty selections are accepted, and the
guard against negated groups.  It is a JSON object whose fields may all be left out, or an array of
their values in order, of which those at the end may be left out.  A relative path to the manifest
is seen from the directory of the configuration file.
-/

namespace BenchSuite

structure Config where
  manifest? : Option Path := none
  allowsNothing : Bool := false
  guard : NegationGuard := {}
deriving DecidableEq, Repr

inductive ConfigError
  | unreadable (path : Path) (error : FileError)
  | unparsable (path : Path)
deriving DecidableEq, Repr

/-- The report of a missing configuration; it does not say where a text fails to be one. -/
def ConfigError.message : ConfigError → String
  | .unreadable path error =>
      "Config file " ++ path.quoted ++ " reading: " ++ error.message
  | .unparsable path => "Config file " ++ path.quoted ++ " parsing: "

/-- The fields of a record, given by their names or by their order. -/
def Json.record? (names : List String) : Json → Option (List (String × Json))
  | .object fields =>
      let given := fields.map Prod.fst
      if given.all names.contains && given.eraseDups.length = given.length then some fields
      else none
  | .array items => if items.length ≤ names.length then some (names.zip items) else none
  | _ => none

/-- The field of a name, read by a reader; what is left out has a standard value. -/
def Json.field? {α : Type} (fields : List (String × Json)) (name : String) (standard : α)
    (read : Json → Option α) : Option α :=
  match fields.lookup name with
  | some json => read json
  | none => some standard

def Json.bool? : Json → Option Bool
  | .bool value => some value
  | _ => none

def NegationGuard.ofJson? (json : Json) : Option NegationGuard := do
  let fields ← json.record? ["reject_negated_group_names", "reject_negated_tags"]
  let standard : NegationGuard := {}
  let groupNames ←
    Json.field? fields "reject_negated_group_names" standard.groupNames Json.bool?
  let tags ← Json.field? fields "reject_negated_tags" standard.tags Json.bool?
  pure ⟨groupNames, tags⟩

namespace Config

def pathOfJson? : Json → Option (Option Path)
  | .null => some none
  | .string text => some (some ⟨text⟩)
  | _ => none

def ofJson? (json : Json) : Option Config := do
  let fields ← json.record? ["manifest", "allow_no_benchmarks", "legacy_guard"]
  let manifest? ← Json.field? fields "manifest" none pathOfJson?
  let allowsNothing ← Json.field? fields "allow_no_benchmarks" false Json.bool?
  let guard ← Json.field? fields "legacy_guard" {} NegationGuard.ofJson?
  pure { manifest?, allowsNothing, guard }

/-- The configuration with the path to its manifest seen from a directory. -/
def relativeTo (config : Config) (directory? : Option Path) : Config :=
  match directory? with
  | some directory => { config with manifest? := config.manifest?.map directory.join }
  | none => config

def load (tree : FileTree) (path : Path) : Except ConfigError Config :=
  match tree.readText path with
  | .error error => .error (.unreadable path error)
  | .ok text =>
      match (Json.parse? text).bind ofJson? with
      | none => .error (.unparsable path)
      | some config => .ok (config.relativeTo path.parent?)

def standardManifest : Path := ⟨"./benchmarks/manifest.yaml"⟩

/-- The path to the manifest: the one asked for, or else the configured one, or else the standard
one. -/
def manifestPath (config : Config) (asked? : Option Path) : Path :=
  (asked?.or config.manifest?).getD standardManifest

end Config

end BenchSuite
