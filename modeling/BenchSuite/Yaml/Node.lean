import BenchSuite.Yaml.Tokens

/-!
# Nodes

A node of a document is a scalar, a sequence, a mapping, or an alias for a node elsewhere.  Aliases
refer to nodes by number; of several nodes of one number the last one counts, in the order in which
they begin.
-/

namespace BenchSuite.Yaml

/-- A node of a document.  A plain scalar is written without quotes and is no block.  The numbers
are those of anchors, and an alias is the node of its number. -/
inductive Node
  | scalar (number? : Option Nat) (isPlain : Bool) (text : String)
  | sequence (number? : Option Nat) (items : List Node)
  | mapping (number? : Option Nat) (entries : List (Node × Node))
  | alias (number : Nat)
deriving Repr

namespace Node

/-- The scalar that stands where nothing is written. -/
def empty (number? : Option Nat := none) : Node :=
  .scalar number? true ""

mutual

/-- The number of marks in a document that make up the node: one for a scalar or an alias, and one
at either end of a collection. -/
def size : Node → Nat
  | .scalar _ _ _ => 1
  | .alias _ => 1
  | .sequence _ items => sizeItems items + 2
  | .mapping _ entries => sizeEntries entries + 2

def sizeItems : List Node → Nat
  | [] => 0
  | item :: items => item.size + sizeItems items

def sizeEntries : List (Node × Node) → Nat
  | [] => 0
  | (key, value) :: entries => key.size + value.size + sizeEntries entries

end

mutual

/-- The last node of a number, in the order in which the nodes begin. -/
def numbered? (number : Nat) : Node → Option Node
  | .scalar number? isPlain text =>
      if number? = some number then some (.scalar number? isPlain text) else none
  | .alias _ => none
  | .sequence number? items =>
      (numberedItem? number items).or
        (if number? = some number then some (.sequence number? items) else none)
  | .mapping number? entries =>
      (numberedAmong? number entries).or
        (if number? = some number then some (.mapping number? entries) else none)

def numberedItem? (number : Nat) : List Node → Option Node
  | [] => none
  | item :: items => (numberedItem? number items).or (item.numbered? number)

def numberedAmong? (number : Nat) : List (Node × Node) → Option Node
  | [] => none
  | (key, value) :: entries =>
      ((numberedAmong? number entries).or (value.numbered? number)).or (key.numbered? number)

end

end Node

/-! ## Nodes from tokens -/

/-- What remains of a document while its nodes are read: the tokens to come, the handles that tags
may have, and the numbers of the anchors met so far. -/
structure Feed where
  tokens : List Token
  handles : List String := []
  anchors : List (String × Nat) := []

namespace Feed

def drop (feed : Feed) (count : Nat) : Feed :=
  { feed with tokens := feed.tokens.drop count }

/-- Numbers an anchor by the count of the names met before it.  A name that is met again takes its
new number. -/
def addAnchor (feed : Feed) (name : String) : Nat × Feed :=
  let number := feed.anchors.length
  let anchors :=
    if feed.anchors.any (·.1 == name) then
      feed.anchors.map fun anchor => if anchor.1 == name then (name, number) else anchor
    else feed.anchors ++ [(name, number)]
  (number, { feed with anchors })

/-- The handle of a tag is declared, or the tag is written in full. -/
def hasHandle (feed : Feed) (handle : String) : Bool :=
  handle.isEmpty || feed.handles.contains handle

/-- What stands in front of a node: an anchor and a tag, in either order, each once at most.  The
first component says whether there is any of them. -/
def properties? (feed : Feed) : Option (Bool × Option Nat × Feed) :=
  match feed.tokens with
  | .anchor name :: .tag handle :: tokens | .tag handle :: .anchor name :: tokens =>
      if feed.hasHandle handle then
        let (number, feed) := { feed with tokens }.addAnchor name
        some (true, some number, feed)
      else none
  | .anchor name :: tokens =>
      let (number, feed) := { feed with tokens }.addAnchor name
      some (true, some number, feed)
  | .tag handle :: tokens =>
      if feed.hasHandle handle then some (true, none, { feed with tokens }) else none
  | _ => some (false, none, feed)

/-- The first of the tokens to come is one of the given ones, or there is none. -/
def leadsWith (feed : Feed) (tokens : List Token) : Bool :=
  feed.tokens.head?.all tokens.contains

mutual

/-- Reads a node.  Blocks may stand only where the context is one, and a sequence whose dashes are
not indented only behind a key.  The limit bounds the depth of the reading. -/
def node? (inBlock allowsUnindented : Bool) (limit : Nat) (feed : Feed) :
    Option (Node × Feed) :=
  match limit with
  | 0 => none
  | limit + 1 =>
      match feed.tokens with
      | .alias name :: _ => do
          let number ← feed.anchors.lookup name
          pure (.alias number, feed.drop 1)
      | _ => do
          let (hasProperties, number?, feed) ← feed.properties?
          match feed.tokens with
          | .blockEntry :: _ =>
              if allowsUnindented then
                let (items, feed) ← unindentedItems? limit feed
                pure (.sequence number? items, feed)
              else if hasProperties then pure (.empty number?, feed)
              else none
          | .scalar isPlain text :: _ => pure (.scalar number? isPlain text, feed.drop 1)
          | .flowSequenceStart :: _ =>
              let (items, feed) ← flowItems? true limit (feed.drop 1)
              pure (.sequence number? items, feed)
          | .flowMappingStart :: _ =>
              let (entries, feed) ← flowEntries? true limit (feed.drop 1)
              pure (.mapping number? entries, feed)
          | .blockSequenceStart :: _ =>
              if inBlock then
                let (items, feed) ← blockItems? limit (feed.drop 1)
                pure (.sequence number? items, feed)
              else if hasProperties then pure (.empty number?, feed)
              else none
          | .blockMappingStart :: _ =>
              if inBlock then
                let (entries, feed) ← blockEntries? limit (feed.drop 1)
                pure (.mapping number? entries, feed)
              else if hasProperties then pure (.empty number?, feed)
              else none
          | _ => if hasProperties then pure (.empty number?, feed) else none

/-- Reads a node, or nothing in front of one of the given tokens. -/
def nodeUnless? (stops : List Token) (inBlock allowsUnindented : Bool) (limit : Nat)
    (feed : Feed) : Option (Node × Feed) :=
  match limit with
  | 0 => none
  | limit + 1 =>
      if feed.leadsWith stops then some (.empty, feed)
      else node? inBlock allowsUnindented limit feed

def blockItems? (limit : Nat) (feed : Feed) : Option (List Node × Feed) :=
  match limit with
  | 0 => none
  | limit + 1 =>
      match feed.tokens with
      | .blockEntry :: _ => do
          let (item, feed) ←
            nodeUnless? [.blockEntry, .blockEnd] true false limit (feed.drop 1)
          let (items, feed) ← blockItems? limit feed
          pure (item :: items, feed)
      | .blockEnd :: _ => some ([], feed.drop 1)
      | _ => none

/-- Reads the entries of a sequence whose dashes are not indented. -/
def unindentedItems? (limit : Nat) (feed : Feed) : Option (List Node × Feed) :=
  match limit with
  | 0 => none
  | limit + 1 =>
      match feed.tokens with
      | .blockEntry :: _ => do
          let (item, feed) ←
            nodeUnless? [.blockEntry, .key, .value, .blockEnd] true false limit (feed.drop 1)
          let (items, feed) ← unindentedItems? limit feed
          pure (item :: items, feed)
      | _ => some ([], feed)

def blockEntries? (limit : Nat) (feed : Feed) : Option (List (Node × Node) × Feed) :=
  match limit with
  | 0 => none
  | limit + 1 =>
      match feed.tokens with
      | .key :: _ => do
          let (key, feed) ← nodeUnless? [.key, .value, .blockEnd] true true limit (feed.drop 1)
          let (value, feed) ←
            match feed.tokens with
            | .value :: _ => nodeUnless? [.key, .value, .blockEnd] true true limit (feed.drop 1)
            | _ => pure (.empty, feed)
          let (entries, feed) ← blockEntries? limit feed
          pure ((key, value) :: entries, feed)
      | .blockEnd :: _ => some ([], feed.drop 1)
      | _ => none

/-- Reads the entries of a sequence in brackets, and the closing bracket.  A pair in it stands for a
mapping of that pair only. -/
def flowItems? (isFirst : Bool) (limit : Nat) (feed : Feed) : Option (List Node × Feed) :=
  match limit with
  | 0 => none
  | limit + 1 => do
      match feed.tokens with
      | .flowSequenceEnd :: _ => pure ([], feed.drop 1)
      | _ =>
          let feed ←
            match isFirst, feed.tokens with
            | true, _ => pure feed
            | false, .flowEntry :: _ => pure (feed.drop 1)
            | false, _ => none
          match feed.tokens with
          | .flowSequenceEnd :: _ => pure ([], feed.drop 1)
          | .key :: _ =>
              let (entry, feed) ← flowPair? limit (feed.drop 1)
              let (items, feed) ← flowItems? false limit feed
              pure (.mapping none [entry] :: items, feed)
          | _ =>
              let (item, feed) ← node? false false limit feed
              let (items, feed) ← flowItems? false limit feed
              pure (item :: items, feed)

def flowPair? (limit : Nat) (feed : Feed) : Option ((Node × Node) × Feed) :=
  match limit with
  | 0 => none
  | limit + 1 => do
      let (key, feed) ←
        if feed.leadsWith [.value, .flowEntry, .flowSequenceEnd] then pure (.empty, feed.drop 1)
        else node? false false limit feed
      match feed.tokens with
      | .value :: _ =>
          let (value, feed) ←
            nodeUnless? [.flowEntry, .flowSequenceEnd] false false limit (feed.drop 1)
          pure ((key, value), feed)
      | _ => pure ((key, .empty), feed)

def flowEntries? (isFirst : Bool) (limit : Nat) (feed : Feed) :
    Option (List (Node × Node) × Feed) :=
  match limit with
  | 0 => none
  | limit + 1 => do
      match feed.tokens with
      | .flowMappingEnd :: _ => pure ([], feed.drop 1)
      | _ =>
          let feed ←
            match isFirst, feed.tokens with
            | true, _ => pure feed
            | false, .flowEntry :: _ => pure (feed.drop 1)
            | false, _ => none
          match feed.tokens with
          | .flowMappingEnd :: _ => pure ([], feed.drop 1)
          | .key :: _ =>
              let (key, feed) ←
                nodeUnless? [.value, .flowEntry, .flowMappingEnd] false false limit (feed.drop 1)
              let (value, feed) ←
                match feed.tokens with
                | .value :: _ =>
                    nodeUnless? [.flowEntry, .flowMappingEnd] false false limit (feed.drop 1)
                | _ => pure (.empty, feed)
              let (entries, feed) ← flowEntries? false limit feed
              pure ((key, value) :: entries, feed)
          | _ =>
              let (key, feed) ← node? false false limit feed
              let (entries, feed) ← flowEntries? false limit feed
              pure ((key, .empty) :: entries, feed)

end

end Feed

end BenchSuite.Yaml
