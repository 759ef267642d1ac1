import BenchSuite.Text.Ranges

/-!
# Characters of a document

A document may hold printable characters, tabs and line breaks, and nothing else.  Before it is
read, every line break that is not a separator of lines or paragraphs is made a line feed.
-/

namespace BenchSuite.Yaml

def permittedRanges : Text.Ranges := [
  (0x9, 0xA), (0xD, 0xD), (0x20, 0x7E), (0x85, 0x85), (0xA0, 0xD7FF), (0xE000, 0xFFFD),
  (0x10000, 0x10FFFF)]

/-- The characters that end a line once line breaks have been unified. -/
def isBreak (c : Char) : Bool :=
  c == '\n' || c == '\u2028' || c == '\u2029'

def isSpace (c : Char) : Bool :=
  c == ' ' || c == '\t'

def isGap (c : Char) : Bool :=
  isSpace c || isBreak c

/-- The text is at its end or goes on with a blank or a line break. -/
def atGap : List Char → Bool
  | [] => true
  | c :: _ => isGap c

def atLineEnd : List Char → Bool
  | [] => true
  | c :: _ => isBreak c

/-- The characters of anchors, handles and directive names. -/
def isHandleCharacter (c : Char) : Bool :=
  c.isAlphanum || c == '_' || c == '-'

/-- The text with a line feed for each line break that is not a separator of its own. -/
def unifyBreaks : List Char → List Char
  | '\r' :: '\n' :: rest => '\n' :: unifyBreaks rest
  | '\r' :: rest => '\n' :: unifyBreaks rest
  | '\x85' :: rest => '\n' :: unifyBreaks rest
  | c :: rest => c :: unifyBreaks rest
  | [] => []

/-- The characters of a text that may be a document, with unified line breaks. -/
def characters? (text : String) : Option (List Char) :=
  if text.toList.all permittedRanges.contains then some (unifyBreaks text.toList) else none

/-- A line of three equal marks, which ends a document or begins another one. -/
def isDocumentMark : List Char → Bool
  | '-' :: '-' :: '-' :: rest => atGap rest
  | '.' :: '.' :: '.' :: rest => atGap rest
  | _ => false

end BenchSuite.Yaml
