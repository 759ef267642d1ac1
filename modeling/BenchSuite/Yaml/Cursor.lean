import BenchSuite.Yaml.Character

/-!
# Places in a document

Reading a document moves along its characters and keeps account of the place reached: the line, the
column within it, which counts characters, and the number of bytes passed.
-/

namespace BenchSuite.Yaml

/-- A place in a document: the line breaks passed, the characters passed since the last one, and the
number of bytes that all characters passed are encoded in. -/
structure Place where
  line : Nat := 0
  column : Nat := 0
  index : Nat := 0
deriving DecidableEq, Repr

def Place.after (place : Place) (c : Char) : Place :=
  if isBreak c then ⟨place.line + 1, 0, place.index + c.utf8Size⟩
  else ⟨place.line, place.column + 1, place.index + c.utf8Size⟩

structure Cursor where
  place : Place := {}
  rest : List Char

namespace Cursor

def skip : Nat → Cursor → Cursor
  | 0, cursor => cursor
  | count + 1, ⟨place, c :: rest⟩ => skip count ⟨place.after c, rest⟩
  | _ + 1, ⟨place, []⟩ => ⟨place, []⟩

def takeWhile (cursor : Cursor) (holds : Char → Bool) : List Char × Cursor :=
  let taken := cursor.rest.takeWhile holds
  (taken, cursor.skip taken.length)

def skipWhile (cursor : Cursor) (holds : Char → Bool) : Cursor :=
  (cursor.takeWhile holds).2

/-- Passes a comment, if one begins here, up to the end of its line. -/
def skipComment (cursor : Cursor) : Cursor :=
  if cursor.rest.head? = some '#' then cursor.skipWhile (!isBreak ·) else cursor

/-- Passes the rest of a line that holds nothing but blanks and a comment, and its end. -/
def finishLine? (cursor : Cursor) : Option Cursor :=
  let cursor := (cursor.skipWhile isSpace).skipComment
  if atLineEnd cursor.rest then some (cursor.skip 1) else none

end Cursor

end BenchSuite.Yaml
