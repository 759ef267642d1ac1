import BenchSuite.Json.Basic
import BenchSuite.Text.Hexadecimal

/-!
# Reading JSON

A text is read as one JSON value with blanks around it, by the letter of the grammar: no comments,
no commas behind the last item, no bare controls in texts, and no halves of surrogate pairs.
-/

namespace BenchSuite.Json

def isBlank (c : Char) : Bool :=
  c == ' ' || c == '\t' || c == '\n' || c == '\r'

def skipBlanks (text : List Char) : List Char :=
  text.dropWhile isBlank

/-- The character that stands for itself, or for a control, behind a backslash. -/
def unescape? : Char → Option Char
  | '\x22' => some '\x22'
  | '\\' => some '\\'
  | '/' => some '/'
  | 'b' => some '\x08'
  | 'f' => some '\x0c'
  | 'n' => some '\n'
  | 'r' => some '\r'
  | 't' => some '\t'
  | _ => none

def surrogatePair? (high low : Nat) : Option Char :=
  if 0xD800 ≤ high && high < 0xDC00 && 0xDC00 ≤ low && low < 0xE000 then
    Text.characterOfNumber? (0x10000 + 0x400 * (high - 0xD800) + (low - 0xDC00))
  else none

def consText (c : Char) (read : List Char × List Char) : List Char × List Char :=
  (c :: read.1, read.2)

/-- Reads a text from behind its opening quote. -/
def textTail? : List Char → Option (List Char × List Char)
  | '\x22' :: rest => some ([], rest)
  | '\\' :: 'u' :: a :: b :: c :: d :: rest =>
      match Text.hexNumber? [a, b, c, d] with
      | none => none
      | some unit =>
          match Text.characterOfNumber? unit with
          | some character => consText character <$> textTail? rest
          | none =>
              match rest with
              | '\\' :: 'u' :: e :: f :: g :: h :: rest =>
                  match (Text.hexNumber? [e, f, g, h]).bind (surrogatePair? unit) with
                  | some character => consText character <$> textTail? rest
                  | none => none
              | _ => none
  | '\\' :: c :: rest =>
      match unescape? c with
      | some character => consText character <$> textTail? rest
      | none => none
  | c :: rest => if c < ' ' || c = '\\' then none else consText c <$> textTail? rest
  | [] => none

def text? : List Char → Option (String × List Char)
  | '\x22' :: rest => do
      let (text, rest) ← textTail? rest
      pure (String.ofList text, rest)
  | _ => none

/-- Reads digits, of which there must be some. -/
def digits? (text : List Char) : Option (List Char × List Char) :=
  let digits := text.takeWhile Char.isDigit
  if digits.isEmpty then none else some (digits, text.dropWhile Char.isDigit)

/-- Reads the integral part of a number, which has no leading zero. -/
def integer? (text : List Char) : Option (List Char × List Char) := do
  let (digits, rest) ← digits? text
  if digits.head? = some '0' && digits.length > 1 then none else pure (digits, rest)

def fraction? : List Char → Option (List Char × List Char)
  | '.' :: rest => do
      let (digits, rest) ← digits? rest
      pure ('.' :: digits, rest)
  | rest => some ([], rest)

def exponent? : List Char → Option (List Char × List Char)
  | c :: rest =>
      if c = 'e' || c = 'E' then do
        let (sign, rest) :=
          match rest with
          | '+' :: rest => (['+'], rest)
          | '-' :: rest => (['-'], rest)
          | rest => ([], rest)
        let (digits, rest) ← digits? rest
        pure (c :: sign ++ digits, rest)
      else some ([], c :: rest)
  | [] => some ([], [])

def number? (text : List Char) : Option (Json × List Char) := do
  let (sign, rest) :=
    match text with
    | '-' :: rest => (['-'], rest)
    | rest => ([], rest)
  let (integer, rest) ← integer? rest
  let (fraction, rest) ← fraction? rest
  let (exponent, rest) ← exponent? rest
  pure (.number (String.ofList (sign ++ integer ++ fraction ++ exponent)), rest)

mutual

/-- Reads a value.  The limit bounds the depth of the reading. -/
def value? (limit : Nat) (text : List Char) : Option (Json × List Char) :=
  match limit with
  | 0 => none
  | limit + 1 =>
      match text with
      | 'n' :: 'u' :: 'l' :: 'l' :: rest => some (.null, rest)
      | 't' :: 'r' :: 'u' :: 'e' :: rest => some (.bool true, rest)
      | 'f' :: 'a' :: 'l' :: 's' :: 'e' :: rest => some (.bool false, rest)
      | '\x22' :: rest => do
          let (text, rest) ← text? ('\x22' :: rest)
          pure (.string text, rest)
      | '[' :: rest =>
          match skipBlanks rest with
          | ']' :: rest => some (.array [], rest)
          | rest => do
              let (items, rest) ← items? limit rest
              pure (.array items, rest)
      | '\x7b' :: rest =>
          match skipBlanks rest with
          | '\x7d' :: rest => some (.object [], rest)
          | rest => do
              let (fields, rest) ← fields? limit rest
              pure (.object fields, rest)
      | text => number? text

/-- Reads the items of an array, of which there must be one, and the closing bracket. -/
def items? (limit : Nat) (text : List Char) : Option (List Json × List Char) :=
  match limit with
  | 0 => none
  | limit + 1 => do
      let (item, rest) ← value? limit (skipBlanks text)
      match skipBlanks rest with
      | ']' :: rest => pure ([item], rest)
      | ',' :: rest =>
          let (items, rest) ← items? limit rest
          pure (item :: items, rest)
      | _ => none

def fields? (limit : Nat) (text : List Char) : Option (List (String × Json) × List Char) :=
  match limit with
  | 0 => none
  | limit + 1 => do
      let (name, rest) ← text? (skipBlanks text)
      match skipBlanks rest with
      | ':' :: rest =>
          let (value, rest) ← value? limit (skipBlanks rest)
          match skipBlanks rest with
          | '\x7d' :: rest => pure ([(name, value)], rest)
          | ',' :: rest =>
              let (fields, rest) ← fields? limit rest
              pure ((name, value) :: fields, rest)
          | _ => none
      | _ => none

end

def parse? (text : String) : Option Json := do
  let characters := text.toList
  let (json, rest) ← value? (characters.length + 1) (skipBlanks characters)
  if (skipBlanks rest).isEmpty then pure json else none

end BenchSuite.Json
