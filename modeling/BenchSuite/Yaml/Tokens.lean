import BenchSuite.Yaml.Token

/-!
# The tokens of a document

Outside flow collections, structure is expressed by indentation: a deeper column opens a block and a
return to a lesser column closes it.  A key needs no mark in front of it, so that a scalar is known
to be a key only when the colon behind it is met; the tokens that open the key are then put in at
the place where it began.  Such a key must lie on one line and be at most 1024 bytes long.
-/

namespace BenchSuite.Yaml

/-- A place at which a key without a mark may have begun, behind a number of tokens.  It is required
where nothing else may stand. -/
structure PossibleKey where
  isRequired : Bool
  position : Nat
  place : Place

/-- What is known when part of a document has been read: the tokens, the last one first, the column
of the innermost block (-1 outside all blocks) and those of the blocks around it, and the possible
keys of the innermost flow collection and of those around it. -/
structure Scan where
  cursor : Cursor
  tokens : List Token := []
  indent : Int := -1
  outerIndents : List Int := []
  allowsKey : Bool := true
  key? : Option PossibleKey := none
  outerKeys : List (Option PossibleKey) := []

namespace Scan

def inFlow (scan : Scan) : Bool :=
  !scan.outerKeys.isEmpty

def place (scan : Scan) : Place :=
  scan.cursor.place

def emit (scan : Scan) (token : Token) : Scan :=
  { scan with tokens := token :: scan.tokens }

def emitAt (scan : Scan) (position : Nat) (token : Token) : Scan :=
  let later := scan.tokens.length - position
  { scan with tokens := scan.tokens.take later ++ token :: scan.tokens.drop later }

def skip (scan : Scan) (count : Nat) : Scan :=
  { scan with cursor := scan.cursor.skip count }

/-! ## Blocks -/

/-- Opens a block at a column, unless one is open there.  The token goes behind a number of
tokens. -/
def openBlock (scan : Scan) (column position : Nat) (token : Token) : Scan :=
  if !scan.inFlow && scan.indent < column then
    { scan.emitAt position token with
      indent := column, outerIndents := scan.indent :: scan.outerIndents }
  else scan

def closeBlocks (scan : Scan) (column : Int) : Scan :=
  if scan.inFlow then scan
  else close scan.outerIndents { scan with outerIndents := [] }
where
  close : List Int → Scan → Scan
    | outer :: others, scan =>
        if scan.indent > column then close others { scan.emit .blockEnd with indent := outer }
        else { scan with outerIndents := outer :: others }
    | [], scan => scan

/-! ## Possible keys -/

/-- Gives up the possible key, unless it is required. -/
def dropKey? (scan : Scan) : Option Scan :=
  if scan.key?.any (·.isRequired) then none else some { scan with key? := none }

def noteKey? (scan : Scan) : Option Scan :=
  if scan.allowsKey then do
    let isRequired := !scan.inFlow && scan.indent = scan.place.column
    let scan ← scan.dropKey?
    pure { scan with key? := some ⟨isRequired, scan.tokens.length, scan.place⟩ }
  else some scan

/-- The greatest number of bytes from the beginning of a key without a mark to its colon. -/
def keyLimit : Nat := 1024

def isStale (scan : Scan) (key : PossibleKey) : Bool :=
  key.place.line < scan.place.line || key.place.index + keyLimit < scan.place.index

/-- Gives up the possible keys that are stale; none of them may be required. -/
def dropStaleKeys? (scan : Scan) : Option Scan :=
  let stale := (scan.key? :: scan.outerKeys).filterMap (·.filter scan.isStale)
  if stale.any (·.isRequired) then none
  else
    let fresh (key? : Option PossibleKey) := key?.filter (!scan.isStale ·)
    some { scan with key? := fresh scan.key?, outerKeys := scan.outerKeys.map fresh }

/-! ## White space -/

/-- Passes blanks, comments and line breaks up to the next token.  A tab is no blank where a key may
begin outside flow collections, and a new line lets one begin. -/
def toToken (inFlow allowsKey : Bool) (inComment : Bool) (place : Place) :
    List Char → Bool × Cursor
  | [] => (allowsKey, ⟨place, []⟩)
  | c :: rest =>
      if isBreak c then toToken inFlow (allowsKey || !inFlow) false (place.after c) rest
      else if inComment then toToken inFlow allowsKey true (place.after c) rest
      else if c = ' ' || (c = '\t' && (inFlow || !allowsKey)) then
        toToken inFlow allowsKey false (place.after c) rest
      else if c = '\ufeff' && place.column = 0 then
        toToken inFlow allowsKey false (place.after c) rest
      else if c = '#' then toToken inFlow allowsKey true (place.after c) rest
      else (allowsKey, ⟨place, c :: rest⟩)

def skipSpace (scan : Scan) : Scan :=
  let (allowsKey, cursor) :=
    toToken scan.inFlow scan.allowsKey false scan.place scan.cursor.rest
  { scan with allowsKey, cursor }

/-! ## Tokens -/

def directive? (scan : Scan) : Option Scan := do
  let scan ← (scan.closeBlocks (-1)).dropKey?
  let (token, cursor) ← Yaml.directive? scan.cursor
  pure { scan.emit token with cursor, allowsKey := false }

def documentMark? (scan : Scan) (token : Token) : Option Scan := do
  let scan ← (scan.closeBlocks (-1)).dropKey?
  pure { (scan.skip 3).emit token with allowsKey := false }

def openFlow? (scan : Scan) (token : Token) : Option Scan := do
  let scan ← scan.noteKey?
  pure { (scan.skip 1).emit token with
    allowsKey := true, key? := none, outerKeys := scan.key? :: scan.outerKeys }

def closeFlow? (scan : Scan) (token : Token) : Option Scan := do
  let scan ← scan.dropKey?
  let scan :=
    match scan.outerKeys with
    | key? :: outerKeys => { scan with key?, outerKeys }
    | [] => scan
  pure { (scan.skip 1).emit token with allowsKey := false }

def flowEntry? (scan : Scan) : Option Scan := do
  let scan ← scan.dropKey?
  pure { (scan.skip 1).emit .flowEntry with allowsKey := true }

def blockEntry? (scan : Scan) : Option Scan := do
  if !scan.inFlow && !scan.allowsKey then none
  else
    let scan ←
      (scan.openBlock scan.place.column scan.tokens.length .blockSequenceStart).dropKey?
    pure { (scan.skip 1).emit .blockEntry with allowsKey := true }

def explicitKey? (scan : Scan) : Option Scan := do
  if !scan.inFlow && !scan.allowsKey then none
  else
    let scan ← (scan.openBlock scan.place.column scan.tokens.length .blockMappingStart).dropKey?
    pure { (scan.skip 1).emit .key with allowsKey := !scan.inFlow }

/-- Reads the colon in front of a value, and takes the possible key for one. -/
def value? (scan : Scan) : Option Scan :=
  match scan.key? with
  | some key =>
      let scan := (scan.emitAt key.position .key).openBlock key.place.column key.position
        .blockMappingStart
      some { (scan.skip 1).emit .value with allowsKey := false, key? := none }
  | none =>
      if !scan.inFlow && !scan.allowsKey then none
      else
        let scan := scan.openBlock scan.place.column scan.tokens.length .blockMappingStart
        some { (scan.skip 1).emit .value with allowsKey := !scan.inFlow }

def anchor? (scan : Scan) (token : String → Token) : Option Scan := do
  let scan ← scan.noteKey?
  let (name, cursor) ← anchorName? (scan.cursor.skip 1)
  pure { scan.emit (token name) with cursor, allowsKey := false }

def tag? (scan : Scan) : Option Scan := do
  let scan ← scan.noteKey?
  let (handle, cursor) ← Yaml.tag? scan.inFlow scan.cursor
  pure { scan.emit (.tag handle) with cursor, allowsKey := false }

def block? (scan : Scan) (isFolded : Bool) : Option Scan := do
  let scan ← scan.dropKey?
  let (text, cursor) ← blockScalar? isFolded scan.indent (scan.cursor.skip 1)
  pure { scan.emit (.scalar false (String.ofList text)) with cursor, allowsKey := true }

def quoted? (scan : Scan)
    (read : ScalarState → List Char → Option (ScalarState × List Char)) : Option Scan := do
  let scan ← scan.noteKey?
  let start := scan.cursor.skip 1
  let (state, rest) ← read { place := start.place } start.rest
  pure { scan.emit (.scalar false (String.ofList state.content)) with
    cursor := ⟨state.place, rest⟩, allowsKey := false }

/-- Reads a plain scalar.  If it ends behind a line break, a key may begin where it ends. -/
def plain? (scan : Scan) : Option Scan := do
  let scan ← scan.noteKey?
  let (state, rest) ←
    plainScalar? scan.inFlow scan.indent { place := scan.place } scan.cursor.rest
  pure { scan.emit (.scalar true (String.ofList state.content)) with
    cursor := ⟨state.place, rest⟩, allowsKey := state.gap.hasBreak }

def isIndicator (c : Char) : Bool :=
  "-?:,[]\x7b\x7d#&*!|>'\x22%@`".toList.contains c

/-- A plain scalar begins here.  A dash, a question mark or a colon may begin one, but not in front
of a blank. -/
def beginsPlain (inFlow : Bool) : List Char → Bool
  | [] => false
  | c :: rest =>
      !(isGap c || isIndicator c) ||
        (c == '-' && !rest.head?.any isSpace) ||
        (!inFlow && (c == '?' || c == ':') && !atGap rest)

def token? (scan : Scan) : Option Scan :=
  let text := scan.cursor.rest
  let beforeGap := atGap text.tail
  match text with
  | [] => none
  | c :: _ =>
      if scan.place.column = 0 && c = '%' then scan.directive?
      else if scan.place.column = 0 && isDocumentMark text then
        scan.documentMark? (if c = '-' then .documentStart else .documentEnd)
      else if c = '[' then scan.openFlow? .flowSequenceStart
      else if c = '\x7b' then scan.openFlow? .flowMappingStart
      else if c = ']' then scan.closeFlow? .flowSequenceEnd
      else if c = '\x7d' then scan.closeFlow? .flowMappingEnd
      else if c = ',' then scan.flowEntry?
      else if c = '-' && beforeGap then scan.blockEntry?
      else if c = '?' && (scan.inFlow || beforeGap) then scan.explicitKey?
      else if c = ':' && (scan.inFlow || beforeGap) then scan.value?
      else if c = '*' then scan.anchor? .alias
      else if c = '&' then scan.anchor? .anchor
      else if c = '!' then scan.tag?
      else if c = '|' && !scan.inFlow then scan.block? false
      else if c = '>' && !scan.inFlow then scan.block? true
      else if c = '\'' then scan.quoted? singleQuoted?
      else if c = '\x22' then scan.quoted? doubleQuoted?
      else if beginsPlain scan.inFlow text then scan.plain?
      else none

/-- Passes white space and settles what the place of the next token decides. -/
def settle? (scan : Scan) : Option Scan := do
  let scan ← scan.skipSpace.dropStaleKeys?
  pure (scan.closeBlocks scan.place.column)

/-- Reads all tokens.  Every token has characters of its own, so that reading one leaves fewer. -/
def all? (scan : Scan) : Option Scan :=
  match scan.settle? with
  | none => none
  | some scan' =>
      if scan'.cursor.rest.isEmpty then (scan'.closeBlocks (-1)).dropKey?
      else
        match scan'.token? with
        | none => none
        | some next =>
            if next.cursor.rest.length < scan.cursor.rest.length then all? next else none
termination_by scan.cursor.rest.length

end Scan

def tokens? (text : String) : Option (List Token) := do
  let scan ← ({ cursor := { rest := ← characters? text } } : Scan).all?
  pure scan.tokens.reverse

end BenchSuite.Yaml
