import BenchSuite.Yaml.Scalar

/-!
# Tokens

The tokens of a document, and the reading of those that are written as one word: anchors, aliases,
tags and directives.
-/

namespace BenchSuite.Yaml

inductive Token
  | version (major minor : Nat)
  | tagHandle (handle : String)
  | documentStart
  | documentEnd
  | blockSequenceStart
  | blockMappingStart
  | blockEnd
  | flowSequenceStart
  | flowSequenceEnd
  | flowMappingStart
  | flowMappingEnd
  | blockEntry
  | flowEntry
  | key
  | value
  | alias (name : String)
  | anchor (name : String)
  | tag (handle : String)
  | scalar (isPlain : Bool) (text : String)
deriving DecidableEq, Repr

/-! ## Anchors -/

def endsAnchor (text : List Char) : Bool :=
  atGap text || text.head?.any "?:,]\x7d%@`".toList.contains

def anchorName? (cursor : Cursor) : Option (String × Cursor) :=
  let (name, cursor) := cursor.takeWhile isHandleCharacter
  if !name.isEmpty && endsAnchor cursor.rest then some (String.ofList name, cursor) else none

/-! ## Tags -/

/-- The number of bytes of a character whose first byte is given. -/
def encodedLength? (byte : Nat) : Option Nat :=
  if byte < 0x80 then some 1
  else if 0xC0 ≤ byte && byte < 0xE0 then some 2
  else if 0xE0 ≤ byte && byte < 0xF0 then some 3
  else if 0xF0 ≤ byte && byte < 0xF8 then some 4
  else none

/-- Passes a number of escaped bytes that continue a character. -/
def continuationBytes? : Nat → List Char → Option (List Char)
  | 0, text => some text
  | count + 1, '%' :: high :: low :: rest => do
      let byte ← Text.hexNumber? [high, low]
      if 0x80 ≤ byte && byte < 0xC0 then continuationBytes? count rest else none
  | _ + 1, _ => none

def escapedBytes? : List Char → Option (List Char)
  | '%' :: high :: low :: rest => do
      let length ← encodedLength? (← Text.hexNumber? [high, low])
      continuationBytes? (length - 1) rest
  | _ => none

def isTagCharacter (isVerbatim : Bool) (c : Char) : Bool :=
  isHandleCharacter c || ";/?:@&=+$.%!~*'()".toList.contains c ||
    (isVerbatim && ",[]".toList.contains c)

/-- Passes the characters of a tag, in which bytes may be escaped. -/
def tagCharacters? (isVerbatim : Bool) (cursor : Cursor) : Option Cursor :=
  let (taken, after) := cursor.takeWhile (isTagCharacter isVerbatim)
  if escapesAreSound taken.length taken then some after else none
where
  -- Every percent sign begins the escaped bytes of a character.
  escapesAreSound : Nat → List Char → Bool
    | 0, _ => true
    | _ + 1, [] => true
    | limit + 1, '%' :: rest =>
        match escapedBytes? ('%' :: rest) with
        | some rest => escapesAreSound limit rest
        | none => false
    | limit + 1, _ :: rest => escapesAreSound limit rest

/-- Reads a handle: an exclamation mark, and a word with a second mark behind it if there is one.
The handle is the text read. -/
def handle? (cursor : Cursor) : Option (List Char × Cursor) :=
  if cursor.rest.head? = some '!' then
    let (word, cursor) := (cursor.skip 1).takeWhile isHandleCharacter
    if cursor.rest.head? = some '!' then some ('!' :: word ++ ['!'], cursor.skip 1)
    else some ('!' :: word, cursor)
  else none

def isFullHandle (handle : List Char) : Bool :=
  handle.length > 1 && handle.getLast? = some '!'

def endsTag (inFlow : Bool) (text : List Char) : Bool :=
  (inFlow && text.head? == some ',') || atGap text

/-- Reads a tag, of which only the handle matters: it is empty for a tag that is written in full. -/
def tag? (inFlow : Bool) (cursor : Cursor) : Option (String × Cursor) := do
  let (handle, cursor) ←
    match cursor.rest with
    | '!' :: '<' :: _ => do
        let start := cursor.skip 2
        let cursor ← tagCharacters? true start
        if cursor.place.index = start.place.index then none
        else if cursor.rest.head? = some '>' then pure ("", cursor.skip 1)
        else none
    | _ => do
        let (handle, start) ← handle? cursor
        let cursor ← tagCharacters? false start
        let isEmpty := cursor.place.index = start.place.index
        if isFullHandle handle then
          if isEmpty then none else pure (String.ofList handle, cursor)
        else if isEmpty && handle.length = 1 then pure ("", cursor)
        else pure ("!", cursor)
  if endsTag inFlow cursor.rest then pure (handle, cursor) else none

/-! ## Directives -/

/-- Reads a number of at most nine digits. -/
def versionNumber? (cursor : Cursor) : Option (Nat × Cursor) :=
  let (digits, cursor) := cursor.takeWhile Char.isDigit
  if digits.isEmpty || digits.length > 9 then none
  else some (digits.foldl (fun number digit => 10 * number + (digit.toNat - '0'.toNat)) 0, cursor)

def version? (cursor : Cursor) : Option (Token × Cursor) := do
  let (major, cursor) ← versionNumber? (cursor.skipWhile isSpace)
  if cursor.rest.head? = some '.' then
    let (minor, cursor) ← versionNumber? (cursor.skip 1)
    pure (.version major minor, cursor)
  else none

def tagHandle? (cursor : Cursor) : Option (Token × Cursor) := do
  let (handle, cursor) ← handle? (cursor.skipWhile isSpace)
  if handle.length > 1 && !isFullHandle handle then none
  else if !cursor.rest.head?.any isSpace then none
  else
    let start := cursor.skipWhile isSpace
    let cursor ← tagCharacters? true start
    if cursor.place.index = start.place.index || !atGap cursor.rest then none
    else pure (.tagHandle (String.ofList handle), cursor)

def directive? (cursor : Cursor) : Option (Token × Cursor) := do
  let (name, cursor) := (cursor.skip 1).takeWhile isHandleCharacter
  if !atGap cursor.rest then none
  else
    let (token, cursor) ←
      if name = "YAML".toList then version? cursor
      else if name = "TAG".toList then tagHandle? cursor
      else none
    pure (token, ← cursor.finishLine?)

end BenchSuite.Yaml
