import BenchSuite.Yaml.Node

/-!
# Documents

A text holds one document: directives, a node, and marks around it.  Values are read out of the
document's nodes: any scalar is a text, whatever it looks like, and where a list or a mapping is
asked for, a plain scalar without characters counts as an empty one.  Following an alias is counted,
and a document may not have more followed than a hundred times its size.
-/

namespace BenchSuite.Yaml

structure Document where
  root : Node

/-- Reads the directives in front of a document: one version at most, which must be 1.1 or 1.2, and
handles, none of them twice. -/
def directives? (hasVersion : Bool) (handles : List String) :
    List Token → Option (List String × List Token)
  | .version major minor :: tokens =>
      if hasVersion || major ≠ 1 || (minor ≠ 1 && minor ≠ 2) then none
      else directives? true handles tokens
  | .tagHandle handle :: tokens =>
      if handles.contains handle then none else directives? hasVersion (handle :: handles) tokens
  | tokens => some (handles, tokens)

/-- The handles that tags may have without a declaration. -/
def standardHandles : List String := ["!", "!!"]

/-- Reads the document that tokens make up; nothing but end marks may follow it. -/
def Document.ofTokens? (tokens : List Token) : Option Document := do
  let limit := 3 * tokens.length + 3
  let (handles, rest) ← directives? false [] tokens
  let feed : Feed := { tokens := rest, handles := handles ++ standardHandles }
  let (root, feed) ←
    match rest with
    | .documentStart :: _ =>
        match rest.tail with
        | .version _ _ :: _ | .tagHandle _ :: _ | .documentStart :: _ | .documentEnd :: _ | [] =>
            pure (.empty, feed.drop 1)
        | _ => (feed.drop 1).node? true false limit
    | _ =>
        if rest.length < tokens.length then none
        else feed.node? true false limit
  if feed.tokens.all (· == .documentEnd) then pure ⟨root⟩ else none

def Document.parse? (text : String) : Option Document := do
  Document.ofTokens? (← tokens? text)

/-- Reads a value out of a document, with account of the aliases followed. -/
abbrev Reader := StateT Nat Option

namespace Document

/-- The node that stands for a node: for an alias the one it refers to. -/
def target (document : Document) : Node → Reader Node
  | .alias number => do
      let followed ← get
      if followed + 1 > 100 * document.root.size then failure
      else
        set (followed + 1)
        match document.root.numbered? number with
        | some node => pure node
        | none => failure
  | node => pure node

def text (document : Document) (node : Node) : Reader String := do
  match ← document.target node with
  | .scalar _ _ text => pure text
  | _ => failure

def items (document : Document) (node : Node) : Reader (List Node) := do
  match ← document.target node with
  | .sequence _ items => pure items
  | .scalar _ true "" => pure []
  | _ => failure

def entries (document : Document) (node : Node) : Reader (List (Node × Node)) := do
  match ← document.target node with
  | .mapping _ entries => pure entries
  | .scalar _ true "" => pure []
  | _ => failure

def texts (document : Document) (node : Node) : Reader (List String) := do
  (← document.items node).mapM document.text

end Document

end BenchSuite.Yaml
