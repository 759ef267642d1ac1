import BenchSuite.Text.Hexadecimal
import BenchSuite.Yaml.Cursor

/-!
# Scalars

A scalar is a text in one of five styles.  Plain and quoted scalars may run over several lines, and
the white space between two of their words is folded: a single line break stands for a blank, and of
several the first one is dropped.  Literal and folded blocks are made of the lines that are indented
deeper than what surrounds them, and the breaks at their end are kept or dropped as their header
says.
-/

namespace BenchSuite.Yaml

/-- White space read inside a scalar that is not yet known to belong to it: blanks within a line, a
line break and the further breaks that follow it, or the breaks that follow an escaped one. -/
inductive Gap
  | spaces (blanks : List Char)
  | breaks (first : Char) (more : List Char)
  | escaped (more : List Char)

namespace Gap

def none : Gap :=
  .spaces []

def isPending : Gap → Bool
  | .spaces blanks => !blanks.isEmpty
  | _ => true

def hasBreak : Gap → Bool
  | .spaces _ => false
  | _ => true

/-- One more blank or line break.  Blanks around line breaks do not count. -/
def add (gap : Gap) (c : Char) : Gap :=
  match gap with
  | .spaces blanks => if isBreak c then .breaks c [] else .spaces (blanks ++ [c])
  | .breaks first more => if isBreak c then .breaks first (more ++ [c]) else gap
  | .escaped more => if isBreak c then .escaped (more ++ [c]) else gap

/-- What the white space stands for between two words. -/
def folded : Gap → List Char
  | .spaces blanks => blanks
  | .breaks first more =>
      if first = '\n' then
        if more.isEmpty then [' '] else more
      else first :: more
  | .escaped more => more

end Gap

/-- The content of a scalar read so far, the white space behind it, and the place reached. -/
structure ScalarState where
  content : List Char := []
  gap : Gap := .none
  place : Place

namespace ScalarState

def space (state : ScalarState) (c : Char) : ScalarState :=
  { state with gap := state.gap.add c, place := state.place.after c }

def put (state : ScalarState) (passed content : List Char) : ScalarState :=
  { content := state.content ++ state.gap.folded ++ content
    gap := .none
    place := passed.foldl Place.after state.place }

end ScalarState

/-! ## Plain scalars -/

def isFlowIndicator (c : Char) : Bool :=
  c == ',' || c == '[' || c == ']' || c == '{' || c == '}'

/-- A plain scalar cannot go on behind white space: the next line is not indented deep enough, or a
document mark or a comment follows. -/
def endsPlain (inFlow : Bool) (indent : Int) (state : ScalarState) (text : List Char) : Bool :=
  state.gap.isPending &&
    ((!inFlow && (state.place.column : Int) ≤ indent) ||
      (state.place.column == 0 && isDocumentMark text) ||
      text.head? == some '#')

/-- Reads a plain scalar.  Within a flow collection a colon must not run into an indicator. -/
def plainScalar? (inFlow : Bool) (indent : Int) (state : ScalarState) :
    List Char → Option (ScalarState × List Char)
  | [] => some (state, [])
  | c :: rest =>
      if isGap c then
        if c = '\t' && state.gap.hasBreak && (state.place.column : Int) ≤ indent then none
        else plainScalar? inFlow indent (state.space c) rest
      else if endsPlain inFlow indent state (c :: rest) then some (state, c :: rest)
      else if inFlow && c == ':' &&
          rest.head?.any (fun next => isFlowIndicator next || next == '?') then none
      else if (c == ':' && atGap rest) || (inFlow && isFlowIndicator c) then
        some (state, c :: rest)
      else plainScalar? inFlow indent (state.put [c] [c]) rest

/-! ## Quoted scalars -/

/-- The characters that a letter stands for behind a backslash. -/
def escapedCharacter? : Char → Option Char
  | '0' => some '\x00'
  | 'a' => some '\x07'
  | 'b' => some '\x08'
  | 't' => some '\t'
  | '\t' => some '\t'
  | 'n' => some '\n'
  | 'v' => some '\x0b'
  | 'f' => some '\x0c'
  | 'r' => some '\r'
  | 'e' => some '\x1b'
  | ' ' => some ' '
  | '\x22' => some '\x22'
  | '/' => some '/'
  | '\\' => some '\\'
  | 'N' => some '\x85'
  | '_' => some '\u00a0'
  | 'L' => some '\u2028'
  | 'P' => some '\u2029'
  | _ => none

def numberedCharacter? (digits : List Char) : Option Char := do
  Text.characterOfNumber? (← Text.hexNumber? digits)

/-- Reads a single-quoted scalar from behind its opening quote; a quote inside is doubled. -/
def singleQuoted? (state : ScalarState) : List Char → Option (ScalarState × List Char)
  | [] => none
  | c :: rest =>
      if isGap c then singleQuoted? (state.space c) rest
      else if state.place.column = 0 && isDocumentMark (c :: rest) then none
      else if c = '\'' then
        match rest with
        | '\'' :: rest => singleQuoted? (state.put ['\'', '\''] ['\'']) rest
        | _ => some (state.put ['\''] [], rest)
      else singleQuoted? (state.put [c] [c]) rest

/-- Reads a double-quoted scalar from behind its opening quote.  A backslash at the end of a line
joins it to the next one, and others begin escapes. -/
def doubleQuoted? (state : ScalarState) : List Char → Option (ScalarState × List Char)
  | [] => none
  | c :: rest =>
      if isGap c then doubleQuoted? (state.space c) rest
      else if state.place.column = 0 && isDocumentMark (c :: rest) then none
      else if c = '\x22' then some (state.put ['\x22'] [], rest)
      else if c = '\\' then
        match rest with
        | 'x' :: a :: b :: rest =>
            match numberedCharacter? [a, b] with
            | some value => doubleQuoted? (state.put [c, 'x', a, b] [value]) rest
            | none => none
        | 'u' :: a :: b :: d :: e :: rest =>
            match numberedCharacter? [a, b, d, e] with
            | some value => doubleQuoted? (state.put [c, 'u', a, b, d, e] [value]) rest
            | none => none
        | 'U' :: a :: b :: d :: e :: f :: g :: h :: i :: rest =>
            match numberedCharacter? [a, b, d, e, f, g, h, i] with
            | some value =>
                doubleQuoted? (state.put [c, 'U', a, b, d, e, f, g, h, i] [value]) rest
            | none => none
        | next :: rest =>
            if isBreak next then
              doubleQuoted? { state.put [c, next] [] with gap := .escaped [] } rest
            else
              match escapedCharacter? next with
              | some value => doubleQuoted? (state.put [c, next] [value]) rest
              | none => none
        | [] => none
      else doubleQuoted? (state.put [c] [c]) rest

/-! ## Blocks -/

/-- What happens to the line breaks at the end of a block: the first one is kept, or none, or all.
-/
inductive Chomping
  | clip
  | strip
  | keep
deriving DecidableEq

/-- The header of a block: its chomping, and how much deeper than its surroundings it is indented,
where that is said. -/
structure BlockHeader where
  chomping : Chomping := .clip
  increment? : Option Nat := none

def chomping? : List Char → Option Chomping
  | '+' :: _ => some .keep
  | '-' :: _ => some .strip
  | _ => none

/-- Reads a digit of additional indentation, which must not be zero. -/
def increment? : List Char → Option (Option Nat)
  | c :: _ =>
      if c = '0' then none
      else if c.isDigit then some (some (c.toNat - '0'.toNat))
      else some none
  | [] => some none

/-- Reads the header of a block: a chomping and an indentation, in either order. -/
def blockHeader? (cursor : Cursor) : Option (BlockHeader × Cursor) :=
  match chomping? cursor.rest with
  | some chomping => do
      let cursor := cursor.skip 1
      let increment ← increment? cursor.rest
      pure (⟨chomping, increment⟩, if increment.isSome then cursor.skip 1 else cursor)
  | none => do
      match ← increment? cursor.rest with
      | none => pure ({}, cursor)
      | some increment =>
          let cursor := cursor.skip 1
          match chomping? cursor.rest with
          | none => pure (⟨.clip, some increment⟩, cursor)
          | some chomping => pure (⟨chomping, some increment⟩, cursor.skip 1)

/-- The lines before the first one of a block that is not empty: their breaks, the deepest column
reached, and what follows.  An indentation of zero is one that is still to be found out; a tab must
not stand where indentation is expected. -/
def leadingBreaks? (indent deepest : Nat) (breaks : List Char) (place : Place) :
    List Char → Option (Nat × List Char × Place × List Char)
  | [] => some (max deepest place.column, breaks, place, [])
  | c :: rest =>
      let isMargin := indent = 0 || place.column < indent
      let deepest := max deepest place.column
      if isMargin && c = ' ' then leadingBreaks? indent deepest breaks (place.after c) rest
      else if isMargin && c = '\t' then none
      else if isBreak c then
        leadingBreaks? indent deepest (breaks ++ [c]) (place.after c) rest
      else some (deepest, breaks, place, c :: rest)

/-- The content of a block read so far, the break of the last line that is not empty, and the breaks
of the empty lines that follow it.  That line was indented if it begins with a blank. -/
structure BlockState where
  content : List Char := []
  lineBreak : List Char := []
  emptyLines : List Char := []
  wasIndented : Bool := false
  inLine : Bool := false
  place : Place

namespace BlockState

/-- Begins a line of content.  A folded block joins two lines by a blank where neither of them
begins with one. -/
def beginLine (isFolded : Bool) (state : BlockState) (c : Char) : BlockState :=
  let folds := isFolded && state.lineBreak == ['\n'] && !state.wasIndented && !isSpace c
  let between :=
    if folds then (if state.emptyLines.isEmpty then [' '] else []) else state.lineBreak
  { content := state.content ++ between ++ state.emptyLines ++ [c]
    lineBreak := []
    emptyLines := []
    wasIndented := isSpace c
    inLine := true
    place := state.place.after c }

def continueLine (state : BlockState) (c : Char) : BlockState :=
  if isBreak c then
    { state with lineBreak := [c], inLine := false, place := state.place.after c }
  else { state with content := state.content ++ [c], place := state.place.after c }

def text (state : BlockState) : Chomping → List Char
  | .clip => state.content ++ state.lineBreak
  | .strip => state.content
  | .keep => state.content ++ state.lineBreak ++ state.emptyLines

end BlockState

/-- Reads the lines of a block, which are those indented by at least the given number of blanks. -/
def blockLines? (isFolded : Bool) (indent : Nat) (state : BlockState) :
    List Char → Option (BlockState × List Char)
  | [] => some (state, [])
  | c :: rest =>
      if state.inLine then blockLines? isFolded indent (state.continueLine c) rest
      else
        let isMargin := state.place.column < indent
        if isMargin && c = ' ' then
          blockLines? isFolded indent { state with place := state.place.after c } rest
        else if isMargin && c = '\t' then none
        else if isBreak c then
          let state :=
            { state with
              emptyLines := state.emptyLines ++ [c], place := state.place.after c }
          blockLines? isFolded indent state rest
        else if state.place.column = indent then
          blockLines? isFolded indent (state.beginLine isFolded c) rest
        else some (state, c :: rest)

/-- Reads a block from behind its indicator, given the indentation of its surroundings. -/
def blockScalar? (isFolded : Bool) (indent : Int) (cursor : Cursor) :
    Option (List Char × Cursor) := do
  let (header, cursor) ← blockHeader? cursor
  let cursor ← cursor.finishLine?
  let given := header.increment?.elim 0 fun increment => (max indent 0).toNat + increment
  let (deepest, breaks, place, rest) ← leadingBreaks? given 0 [] cursor.place cursor.rest
  let width := if given = 0 then max deepest (max (indent + 1) 1).toNat else given
  let (state, rest) ← blockLines? isFolded width { emptyLines := breaks, place } rest
  pure (state.text header.chomping, ⟨state.place, rest⟩)

end BenchSuite.Yaml
