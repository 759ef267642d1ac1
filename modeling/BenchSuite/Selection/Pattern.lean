import BenchSuite.Names.NameRule

/-!
# Patterns

A pattern says which benchmarks are meant: one benchmark by its name, or all members of a group or
tag, whose name is written between angle brackets.  A text between angle brackets is always taken
for a tag: if the name inside is refused, so is the whole text.
-/

namespace BenchSuite

/-- What a selection refers to.  A name means one benchmark, or the group of this name if there is
no such benchmark; a tag means the members of a group or tag. -/
inductive Pattern
  | name (benchmark : String)
  | tag (group : String)
deriving DecidableEq, Repr

namespace Pattern

def identifier : Pattern → String
  | .name benchmark => benchmark
  | .tag group => group

def isTag : Pattern → Bool
  | .name _ => false
  | .tag _ => true

def render : Pattern → String
  | .name benchmark => benchmark
  | .tag group => "<" ++ group ++ ">"

/-- What stands between the angle brackets at both ends of a text. -/
def interior? : List Char → Option (List Char)
  | '<' :: rest => if rest.getLast? = some '>' then some rest.dropLast else none
  | _ => none

def parseName (text : String) : Except NameError Pattern :=
  .name <$> NameRule.numericStart.check text

/-- Reads a tag; there is none if the text does not stand between angle brackets. -/
def parseTag (text : String) : Except NameError (Option Pattern) :=
  match interior? text.toList with
  | none => .ok none
  | some inside => (some ∘ .tag) <$> NameRule.strict.check (String.ofList inside)

/-- Reads a tag if the text stands between angle brackets, and otherwise a name. -/
def parse (text : String) : Except NameError Pattern := do
  match ← parseTag text with
  | some pattern => pure pattern
  | none => parseName text

end Pattern

end BenchSuite
