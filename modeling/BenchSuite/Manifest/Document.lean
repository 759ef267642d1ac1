import BenchSuite.Manifest.Suite
import BenchSuite.Yaml.Document

/-!
# Manifests as documents

A manifest is written as a mapping with the field `benchmarks`, a list of mappings with the fields
`name` and `tags`, and the field `groups`, a mapping from group names to lists of tokens.  Tags and
groups may be left out.  No field may be repeated and no other field may stand beside them; among
the groups, however, a repeated name takes its last definition.
-/

namespace BenchSuite

namespace Benchmark

structure Fields where
  name? : Option String := none
  tags? : Option (List String) := none

def Fields.read (document : Yaml.Document) (fields : Fields) (entry : Yaml.Node × Yaml.Node) :
    Yaml.Reader Fields := do
  match ← document.text entry.1, fields with
  | "name", { name? := none, .. } =>
      pure { fields with name? := some (← document.text entry.2) }
  | "tags", { tags? := none, .. } =>
      pure { fields with tags? := some (← document.texts entry.2) }
  | _, _ => failure

def ofNode (document : Yaml.Document) (node : Yaml.Node) : Yaml.Reader Benchmark := do
  let fields ← (← document.entries node).foldlM (Fields.read document) {}
  match fields.name? with
  | some name => pure ⟨name, fields.tags?.getD []⟩
  | none => failure

end Benchmark

namespace Manifest

structure Fields where
  benchmarks? : Option (List Benchmark) := none
  groups? : Option (NameMap (List String)) := none

def definitionsOfNode (document : Yaml.Document) (node : Yaml.Node) :
    Yaml.Reader (NameMap (List String)) := do
  let definitions ← (← document.entries node).mapM fun (key, value) => do
    let name ← document.text key
    let tokens ← document.texts value
    pure (name, tokens)
  pure (NameMap.ofList definitions)

def Fields.read (document : Yaml.Document) (fields : Fields) (entry : Yaml.Node × Yaml.Node) :
    Yaml.Reader Fields := do
  match ← document.text entry.1, fields with
  | "benchmarks", { benchmarks? := none, .. } =>
      let benchmarks ← (← document.items entry.2).mapM (Benchmark.ofNode document)
      pure { fields with benchmarks? := some benchmarks }
  | "groups", { groups? := none, .. } =>
      pure { fields with groups? := some (← definitionsOfNode document entry.2) }
  | _, _ => failure

/-- Reads a manifest out of a document. -/
def ofDocument? (document : Yaml.Document) : Option Manifest := do
  let read : Yaml.Reader Fields := do
    (← document.entries document.root).foldlM (Fields.read document) {}
  let (fields, _) ← read.run 0
  let benchmarks ← fields.benchmarks?
  pure ⟨benchmarks, fields.groups?.getD ∅⟩

def parse? (text : String) : Option Manifest := do
  ofDocument? (← Yaml.Document.parse? text)

end Manifest

end BenchSuite
